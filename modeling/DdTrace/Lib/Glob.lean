import Mathlib.Computability.Language
import Mathlib.Data.List.Infix

/-!
# Glob — the language of a pattern with wildcards

A pattern is a list of tokens over an alphabet: a star stands for any word, a question mark for any
one symbol, and every other token for its symbol.  The language of a pattern is the product of the
languages of its tokens.

* `Glob.language`, with its membership rules token by token, and `Glob.accepts`, which decides it;
* `Glob.drop_mem` — what is left of a word after a part of the pattern without stars;
* `Glob.minLength` — how long a word of the language is at least.
-/

namespace DdTrace
namespace Lib

namespace Glob

inductive Token (α : Type*)
  | star
  | one
  | lit (a : α)
  deriving DecidableEq

variable {α : Type*} {p q : List (Token α)} {w : List α} {a b : α}

def Token.language : Token α → Language α
  | .star => ⊤
  | .one => {w | w.length = 1}
  | .lit a => {[a]}

/-- The language of a pattern. -/
def language (p : List (Token α)) : Language α := (p.map Token.language).prod

/-! ## Membership -/

theorem mem_append : w ∈ language (p ++ q) ↔ ∃ u ∈ language p, ∃ v ∈ language q, u ++ v = w := by
  simp only [language, List.map_append, List.prod_append, Language.mem_mul]

theorem mem_cons {t : Token α} :
    w ∈ language (t :: p) ↔ ∃ u ∈ t.language, ∃ v ∈ language p, u ++ v = w := by
  simp only [language, List.map_cons, List.prod_cons, Language.mem_mul]

@[simp] theorem mem_nil : w ∈ language ([] : List (Token α)) ↔ w = [] := Iff.rfl

@[simp] theorem nil_mem_lit : [] ∈ language (.lit a :: p) ↔ False := by
  rw [mem_cons, iff_false]
  rintro ⟨u, rfl, v, _, heq⟩
  cases heq

@[simp] theorem cons_mem_lit : b :: w ∈ language (.lit a :: p) ↔ b = a ∧ w ∈ language p := by
  rw [mem_cons]
  constructor
  · rintro ⟨u, rfl, v, hv, heq⟩
    obtain ⟨rfl, rfl⟩ : a = b ∧ v = w := by simpa using heq
    exact ⟨rfl, hv⟩
  · rintro ⟨rfl, hw⟩
    exact ⟨[b], rfl, w, hw, rfl⟩

@[simp] theorem nil_mem_one : [] ∈ language (.one :: p) ↔ False := by
  rw [mem_cons, iff_false]
  rintro ⟨u, hu, v, _, heq⟩
  obtain ⟨rfl, rfl⟩ := List.append_eq_nil_iff.1 heq
  cases hu

@[simp] theorem cons_mem_one : b :: w ∈ language (.one :: p) ↔ w ∈ language p := by
  rw [mem_cons]
  constructor
  · rintro ⟨u, hu, v, hv, heq⟩
    obtain ⟨c, rfl⟩ := List.length_eq_one_iff.1 hu
    obtain ⟨-, rfl⟩ : c = b ∧ v = w := by simpa using heq
    exact hv
  · intro hw
    exact ⟨[b], rfl, w, hw, rfl⟩

/-- A star takes any prefix. -/
theorem mem_star : w ∈ language (.star :: p) ↔ ∃ u v, u ++ v = w ∧ v ∈ language p := by
  rw [mem_cons]
  constructor
  · rintro ⟨u, _, v, hv, heq⟩
    exact ⟨u, v, heq, hv⟩
  · rintro ⟨u, v, heq, hv⟩
    exact ⟨u, trivial, v, hv, heq⟩

@[simp] theorem nil_mem_star : [] ∈ language (.star :: p) ↔ [] ∈ language p := by
  simp [mem_star]

/-- A star takes nothing, or one symbol and then again as a star. -/
theorem cons_mem_star :
    b :: w ∈ language (.star :: p) ↔ b :: w ∈ language p ∨ w ∈ language (.star :: p) := by
  simp only [mem_star]
  constructor
  · rintro ⟨u, v, heq, hv⟩
    cases u with
    | nil =>
        obtain rfl : v = b :: w := heq
        exact .inl hv
    | cons c u =>
        obtain ⟨rfl, rfl⟩ : c = b ∧ u ++ v = w := by simpa using heq
        exact .inr ⟨u, v, rfl, hv⟩
  · rintro (hw | ⟨u, v, rfl, hv⟩)
    · exact ⟨[], b :: w, rfl, hw⟩
    · exact ⟨b :: u, v, rfl, hv⟩

/-- What the rest of the pattern matches, a star before it matches. -/
theorem mem_star_of_mem (h : w ∈ language p) : w ∈ language (.star :: p) :=
  mem_star.2 ⟨[], w, rfl, h⟩

/-- A star also takes what stands before a match. -/
theorem mem_star_of_append {u : List α} (h : w ∈ language (.star :: p)) :
    u ++ w ∈ language (.star :: p) := by
  obtain ⟨x, v, rfl, hv⟩ := mem_star.1 h
  exact mem_star.2 ⟨u ++ x, v, by simp, hv⟩

theorem mem_star_of_drop {n : Nat} (h : w.drop n ∈ language (.star :: p)) :
    w ∈ language (.star :: p) := by
  rw [← List.take_append_drop n w]
  exact mem_star_of_append h

/-! ## Order of wildcards -/

/-- A second star adds nothing. -/
theorem mem_star_star : w ∈ language (.star :: .star :: p) ↔ w ∈ language (.star :: p) := by
  constructor
  · intro h
    obtain ⟨u, v, rfl, hv⟩ := mem_star.1 h
    exact mem_star_of_append hv
  · exact mem_star_of_mem

/-- A star and a question mark next to it can change places. -/
theorem mem_star_one :
    w ∈ language (.star :: .one :: p) ↔ w ∈ language (.one :: .star :: p) := by
  induction w with
  | nil => simp
  | cons b w ih =>
      rw [cons_mem_star, cons_mem_one, cons_mem_one, ih]
      cases w with
      | nil => simp
      | cons c w =>
          rw [cons_mem_one]
          constructor
          · rintro (hw | hw)
            · exact mem_star_of_mem hw
            · exact cons_mem_star.2 (.inr hw)
          · exact cons_mem_star.1

/-- What stands behind a part of a pattern can be replaced by what accepts the same words. -/
theorem mem_append_congr (h : ∀ v, v ∈ language p ↔ v ∈ language q) (r : List (Token α)) :
    w ∈ language (r ++ p) ↔ w ∈ language (r ++ q) := by
  simp only [mem_append, h]

/-- Symbols that stand for themselves take themselves. -/
theorem mem_lits_append {u : List α} :
    w ∈ language (u.map Token.lit ++ p) ↔ ∃ v ∈ language p, u ++ v = w := by
  induction u generalizing w with
  | nil => simp
  | cons a u ih =>
      cases w with
      | nil => simp
      | cons b w =>
          rw [List.map_cons, List.cons_append, cons_mem_lit, ih]
          constructor
          · rintro ⟨rfl, v, hv, rfl⟩
            exact ⟨v, hv, rfl⟩
          · rintro ⟨v, hv, heq⟩
            obtain ⟨rfl, rfl⟩ : a = b ∧ u ++ v = w := by simpa using heq
            exact ⟨rfl, v, hv, rfl⟩

/-! ## Runs of wildcards -/

/-- So many question marks, and then perhaps a star. -/
def gap (questions : Nat) (star : Bool) : List (Token α) :=
  List.replicate questions .one ++ if star then [.star] else []

/-- The gap is as good as any run of wildcards that goes on with a star. -/
theorem mem_gap_star (n : Nat) (star : Bool) :
    w ∈ language (gap n star ++ .star :: p) ↔ w ∈ language (gap n true ++ p) := by
  cases star with
  | false => simp [gap]
  | true =>
      simp only [gap, if_true, List.append_assoc, List.singleton_append]
      exact mem_append_congr (fun v => mem_star_star) _

/-- The gap is as good as any run of wildcards that goes on with a question mark. -/
theorem mem_gap_one (n : Nat) (star : Bool) :
    w ∈ language (gap n star ++ .one :: p) ↔ w ∈ language (gap (n + 1) star ++ p) := by
  cases star with
  | false => simp [gap, List.replicate_succ']
  | true =>
      simp only [gap, if_true, List.replicate_succ', List.append_assoc, List.singleton_append]
      exact mem_append_congr (fun v => mem_star_one) _

/-- A gap without a star takes as many symbols as it has question marks. -/
theorem mem_gap_false {n : Nat} :
    w ∈ language (gap n false ++ p) ↔ ∃ u v, u ++ v = w ∧ u.length = n ∧ v ∈ language p := by
  have hgap : ∀ n, gap (α := α) n false = List.replicate n .one := fun n => by simp [gap]
  rw [hgap]
  induction n generalizing w with
  | zero => simp
  | succ n ih =>
      cases w with
      | nil => simp [List.replicate_succ]
      | cons b w =>
          rw [List.replicate_succ, List.cons_append, cons_mem_one]
          refine ih.trans ?_
          constructor
          · rintro ⟨u, v, rfl, rfl, hv⟩
            exact ⟨b :: u, v, rfl, rfl, hv⟩
          · rintro ⟨u, v, heq, hlen, hv⟩
            cases u with
            | nil => cases hlen
            | cons c u =>
                obtain ⟨rfl, rfl⟩ : c = b ∧ u ++ v = w := by simpa using heq
                exact ⟨u, v, rfl, by simpa using hlen, hv⟩

/-- A gap with a star takes at least as many symbols as it has question marks. -/
theorem mem_gap_true {n : Nat} :
    w ∈ language (gap n true ++ p) ↔ ∃ u v, u ++ v = w ∧ n ≤ u.length ∧ v ∈ language p := by
  have hgap : gap n true ++ p = gap n false ++ .star :: p := by simp [gap]
  rw [hgap, mem_gap_false]
  constructor
  · rintro ⟨u, v, rfl, hlen, hv⟩
    obtain ⟨x, y, rfl, hy⟩ := mem_star.1 hv
    exact ⟨u ++ x, y, by simp, by simp [hlen], hy⟩
  · rintro ⟨u, v, rfl, hle, hv⟩
    refine ⟨u.take n, u.drop n ++ v, ?_, ?_, mem_star.2 ⟨u.drop n, v, rfl, hv⟩⟩
    · rw [← List.append_assoc, List.take_append_drop]
    · rw [List.length_take, Nat.min_eq_left hle]

theorem mem_gap {n : Nat} : w ∈ language (gap n false) ↔ w.length = n := by
  rw [← List.append_nil (gap n false), mem_gap_false]
  constructor
  · rintro ⟨u, v, rfl, hlen, rfl⟩
    rw [List.append_nil, hlen]
  · intro hlen
    exact ⟨w, [], List.append_nil w, hlen, rfl⟩

/-! ## Deciding membership -/

section Decidable

variable [DecidableEq α]

/-- Whether a pattern accepts a word. -/
def accepts : List (Token α) → List α → Bool
  | [], w => w.isEmpty
  | .star :: p, w => w.tails.any (accepts p)
  | .one :: _, [] => false
  | .one :: p, _ :: w => accepts p w
  | .lit _ :: _, [] => false
  | .lit a :: p, b :: w => b = a && accepts p w

theorem accepts_iff : accepts p w = true ↔ w ∈ language p := by
  induction p generalizing w with
  | nil => simp [accepts]
  | cons t p ih =>
      cases t with
      | star =>
          simp only [accepts, List.any_eq_true, List.mem_tails, ih, mem_star]
          constructor
          · rintro ⟨v, ⟨u, heq⟩, hv⟩
            exact ⟨u, v, heq, hv⟩
          · rintro ⟨u, v, heq, hv⟩
            exact ⟨v, ⟨u, heq⟩, hv⟩
      | one =>
          cases w with
          | nil => simp [accepts]
          | cons b w => simp [accepts, ih]
      | lit a =>
          cases w with
          | nil => simp [accepts]
          | cons b w => simp [accepts, ih]

instance (p : List (Token α)) (w : List α) : Decidable (w ∈ language p) :=
  decidable_of_iff _ accepts_iff

end Decidable

/-! ## Lengths -/

/-- The number of symbols that the tokens other than stars take. -/
def minLength : List (Token α) → Nat
  | [] => 0
  | .star :: p => minLength p
  | .one :: p => minLength p + 1
  | .lit _ :: p => minLength p + 1

theorem minLength_append : minLength (p ++ q) = minLength p + minLength q := by
  induction p with
  | nil => simp [minLength]
  | cons t p ih =>
      cases t with
      | star => simp [minLength, ih]
      | one => simp [minLength, ih, Nat.add_right_comm]
      | lit a => simp [minLength, ih, Nat.add_right_comm]

theorem minLength_le (h : w ∈ language p) : minLength p ≤ w.length := by
  induction p generalizing w with
  | nil => simp [minLength]
  | cons t p ih =>
      obtain ⟨u, hu, v, hv, rfl⟩ := mem_cons.1 h
      have hrest := ih hv
      cases t with
      | star =>
          simp only [minLength, List.length_append]
          omega
      | one =>
          have hlen : u.length = 1 := hu
          simp only [minLength, List.length_append]
          omega
      | lit a =>
          obtain rfl : u = [a] := hu
          simp only [minLength, List.length_append, List.length_singleton]
          omega

/-- A part of the pattern without stars takes as many symbols as it has tokens. -/
theorem drop_mem (hfixed : Token.star ∉ p) (h : w ∈ language (p ++ q)) :
    w.drop p.length ∈ language q := by
  induction p generalizing w with
  | nil => simpa using h
  | cons t p ih =>
      have hp : Token.star ∉ p := fun hmem => hfixed (List.mem_cons_of_mem _ hmem)
      cases w with
      | nil =>
          cases t with
          | star => exact absurd (List.mem_cons_self ..) hfixed
          | one => simp at h
          | lit a => simp at h
      | cons b w =>
          cases t with
          | star => exact absurd (List.mem_cons_self ..) hfixed
          | one => exact ih hp (by simpa using h)
          | lit a =>
              have hw : b = a ∧ w ∈ language (p ++ q) := by simpa using h
              exact ih hp hw.2

end Glob

end Lib
end DdTrace
