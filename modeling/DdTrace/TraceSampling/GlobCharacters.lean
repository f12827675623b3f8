import DdTrace.TraceSampling.GlobMatcher

/-!
# GlobCharacters — a question mark takes a byte, not a character

The documentation of the matcher speaks of characters, its search of bytes.  For a text that is not
ASCII the two differ as soon as a question mark counts: `?` does not match `é`, and `??` does.

The literal characters of a pattern can only match whole characters, so what the wildcards between
them take is a text too.  A run of wildcards that asks for nothing, or for at least one symbol, means
the same in bytes and in characters; any other run does not.  `documented_iff` makes this exact.
-/

namespace DdTrace
namespace TraceSampling

open DdTrace.Lib DdTrace.Core

/-! ## The pattern language over characters -/

/-- What a character of a pattern stands for. -/
def charToken (c : Char) : Glob.Token Char :=
  if c = '?' then .one else if c = '*' then .star else .lit c

/-- The pattern of a text, character by character. -/
def charPattern (pattern : Str) : List (Glob.Token Char) := pattern.map charToken

def isWildcard (c : Char) : Bool := c = '?' || c = '*'

/-- Whether a run of wildcards means the same in bytes and in characters: it has no question mark,
or exactly one, and a star besides. -/
def runOk (questions : Nat) (star : Bool) : Bool := questions = 0 || (questions = 1 && star)

/-- Whether all runs of wildcards are of that kind, after a run that has begun. -/
def runsOk : Nat → Bool → Str → Bool
  | questions, star, [] => runOk questions star
  | questions, star, c :: pattern =>
      if c = '?' then runsOk (questions + 1) star pattern
      else if c = '*' then runsOk questions true pattern
      else runOk questions star && runsOk 0 false pattern

/-- Every run of adjacent wildcards of a pattern means the same in bytes and in characters. -/
def wildcardRunsOk (pattern : Str) : Bool := runsOk 0 false pattern

section Tokens

variable {c : Char} {pattern : Str}

theorem bytePattern_one (pattern : Str) :
    bytePattern ('?' :: pattern) = .one :: bytePattern pattern := by
  have hone : (String.utf8EncodeChar '?').map byteToken = [.one] := by decide
  rw [bytePattern, Text.bytes_cons, List.map_append, hone]
  rfl

theorem bytePattern_star (pattern : Str) :
    bytePattern ('*' :: pattern) = .star :: bytePattern pattern := by
  have hstar : (String.utf8EncodeChar '*').map byteToken = [.star] := by decide
  rw [bytePattern, Text.bytes_cons, List.map_append, hstar]
  rfl

theorem bytePattern_lit (hc : isWildcard c = false) (pattern : Str) :
    bytePattern (c :: pattern) = (String.utf8EncodeChar c).map .lit ++ bytePattern pattern := by
  have hne : c ≠ '?' ∧ c ≠ '*' := by simpa [isWildcard] using hc
  rw [bytePattern, Text.bytes_cons, List.map_append]
  congr 1
  apply List.map_congr_left
  intro b hb
  -- no byte of another character is that of a wildcard
  have hbytes : b ∈ Text.bytes [c] := by simpa [Text.bytes] using hb
  have hone : b ≠ Text.byte '?' := by
    rintro rfl
    have hmem := (Text.byte_mem_bytes_iff (by decide)).1 hbytes
    exact hne.1 (List.mem_singleton.1 hmem).symm
  have hstar : b ≠ Text.byte '*' := by
    rintro rfl
    have hmem := (Text.byte_mem_bytes_iff (by decide)).1 hbytes
    exact hne.2 (List.mem_singleton.1 hmem).symm
  simp [byteToken, hone, hstar]

theorem charToken_lit (hc : isWildcard c = false) : charToken c = .lit c := by
  have hne : c ≠ '?' ∧ c ≠ '*' := by simpa [isWildcard] using hc
  simp [charToken, hne]

/-- A character of a pattern: one of the wildcards, or any other. -/
theorem wildcard_cases (c : Char) : c = '?' ∨ c = '*' ∨ isWildcard c = false := by
  by_cases hone : c = '?'
  · exact .inl hone
  · by_cases hstar : c = '*'
    · exact .inr (.inl hstar)
    · exact .inr (.inr (by simp [isWildcard, hone, hstar]))

/-- A literal character takes itself, as a whole. -/
theorem bytes_mem_lit (hc : isWildcard c = false) {subject : Str} :
    Text.bytes subject ∈ Glob.language (bytePattern (c :: pattern)) ↔
      ∃ rest, subject = c :: rest ∧ Text.bytes rest ∈ Glob.language (bytePattern pattern) := by
  rw [bytePattern_lit hc, Glob.mem_lits_append]
  constructor
  · rintro ⟨v, hv, heq⟩
    cases subject with
    | nil =>
        have hnil := (List.append_eq_nil_iff.1 heq).1
        exact absurd hnil String.utf8EncodeChar_ne_nil
    | cons d rest =>
        obtain ⟨rfl, rfl⟩ := Text.utf8EncodeChar_append_inj (heq.trans (Text.bytes_cons d rest))
        exact ⟨rest, rfl, hv⟩
  · rintro ⟨rest, rfl, hrest⟩
    exact ⟨Text.bytes rest, hrest, (Text.bytes_cons c rest).symm⟩

theorem mem_charPattern_lit (hc : isWildcard c = false) {subject : Str} :
    subject ∈ Glob.language (charPattern (c :: pattern)) ↔
      ∃ rest, subject = c :: rest ∧ rest ∈ Glob.language (charPattern pattern) := by
  rw [charPattern, List.map_cons, charToken_lit hc]
  cases subject with
  | nil => simp
  | cons d rest => simp [and_comm, eq_comm, charPattern]

end Tokens

/-- The empty pattern takes nothing. -/
theorem mem_nil_iff (subject : Str) :
    Text.bytes subject ∈ Glob.language (bytePattern []) ↔
      subject ∈ Glob.language (charPattern []) := by
  cases subject with
  | nil => simp [bytePattern, charPattern, Text.bytes]
  | cons d rest => simp [bytePattern, charPattern, Text.bytes, String.utf8EncodeChar_ne_nil]

/-! ## ASCII subjects -/

/-- For an ASCII subject the two languages are the same. -/
theorem mem_iff_of_isAscii {subject : Str} (hascii : ∀ c ∈ subject, Text.isAscii c = true)
    (pattern : Str) :
    Text.bytes subject ∈ Glob.language (bytePattern pattern) ↔
      subject ∈ Glob.language (charPattern pattern) := by
  induction pattern generalizing subject with
  | nil => exact mem_nil_iff subject
  | cons c pattern ih =>
      rcases wildcard_cases c with rfl | rfl | hc
      · rw [bytePattern_one]
        cases subject with
        | nil => simp [charPattern, charToken, Text.bytes]
        | cons d rest =>
            rw [Text.bytes_cons, Text.utf8EncodeChar_of_isAscii (hascii d (List.mem_cons_self ..)),
              List.singleton_append, Glob.cons_mem_one,
              ih fun e he => hascii e (List.mem_cons_of_mem _ he)]
            simp [charPattern, charToken]
      · have hstar : charPattern ('*' :: pattern) = .star :: charPattern pattern := rfl
        rw [bytePattern_star, hstar, Glob.mem_star, Glob.mem_star]
        constructor
        · rintro ⟨u, v, heq, hv⟩
          -- every byte of an ASCII text is a first byte
          have hbound : Text.AtBoundary v := by
            cases v with
            | nil => trivial
            | cons b v =>
                have hmem : b ∈ Text.bytes subject := by simp [← heq]
                obtain ⟨d, hd, hb⟩ := List.mem_flatMap.1 hmem
                rw [Text.utf8EncodeChar_of_isAscii (hascii d hd), List.mem_singleton] at hb
                rw [hb]
                exact Text.isUTF8FirstByte_of_isAsciiByte (Text.isAsciiByte_byte (hascii d hd))
          obtain ⟨s₁, s₂, rfl, rfl, rfl⟩ := Text.split_bytes heq hbound
          exact ⟨s₁, s₂, rfl, (ih fun e he => hascii e (List.mem_append_right _ he)).1 hv⟩
        · rintro ⟨s₁, s₂, rfl, hs⟩
          exact ⟨Text.bytes s₁, Text.bytes s₂, (Text.bytes_append s₁ s₂).symm,
            (ih fun e he => hascii e (List.mem_append_right _ he)).2 hs⟩
      · rw [bytes_mem_lit hc, mem_charPattern_lit hc]
        constructor
        · rintro ⟨rest, rfl, hrest⟩
          exact ⟨rest, rfl, (ih fun e he => hascii e (List.mem_cons_of_mem _ he)).1 hrest⟩
        · rintro ⟨rest, rfl, hrest⟩
          exact ⟨rest, rfl, (ih fun e he => hascii e (List.mem_cons_of_mem _ he)).2 hrest⟩

/-! ## Patterns with harmless runs of wildcards -/

/-- A pattern that begins with a literal character, or is empty. -/
def StartsLit (pattern : Str) : Prop := ∀ c ∈ pattern.head?, isWildcard c = false

/-- What such a pattern matches begins where a character can begin. -/
theorem atBoundary_of_mem {pattern : Str} (hlit : StartsLit pattern) {v : List UInt8}
    (hv : v ∈ Glob.language (bytePattern pattern)) : Text.AtBoundary v := by
  cases pattern with
  | nil =>
      obtain rfl : v = [] := Glob.mem_nil.1 hv
      trivial
  | cons c pattern =>
      rw [bytePattern_lit (hlit c rfl), Glob.mem_lits_append] at hv
      obtain ⟨rest, _, rfl⟩ := hv
      obtain ⟨b, tail, hencode, hfirst, _⟩ := Text.utf8EncodeChar_eq_cons c
      rw [hencode]
      exact hfirst

/-- A harmless gap before a literal character means the same in bytes and in characters. -/
theorem mem_gap_iff {pattern : Str} (hlit : StartsLit pattern)
    (hrest : ∀ subject, Text.bytes subject ∈ Glob.language (bytePattern pattern) ↔
      subject ∈ Glob.language (charPattern pattern))
    {questions : Nat} {star : Bool} (hok : runOk questions star = true) (subject : Str) :
    Text.bytes subject ∈ Glob.language (Glob.gap questions star ++ bytePattern pattern) ↔
      subject ∈ Glob.language (Glob.gap questions star ++ charPattern pattern) := by
  have hcases : questions = 0 ∨ questions = 1 ∧ star = true := by simpa [runOk] using hok
  cases star with
  | false =>
      obtain rfl : questions = 0 := by simpa using hcases
      exact hrest subject
  | true =>
      have hle : questions ≤ 1 := by
        rcases hcases with rfl | ⟨rfl, _⟩
        · exact Nat.zero_le 1
        · exact Nat.le_refl 1
      rw [Glob.mem_gap_true, Glob.mem_gap_true]
      -- one byte at least is one character at least
      have hlength : ∀ s : Str, questions ≤ (Text.bytes s).length ↔ questions ≤ s.length := by
        intro s
        cases s with
        | nil => exact Iff.rfl
        | cons c s =>
            have hbytes := Text.length_le_utf8Len (c :: s)
            rw [Text.length_bytes]
            rw [List.length_cons] at hbytes ⊢
            omega
      constructor
      · rintro ⟨u, v, heq, hu, hv⟩
        obtain ⟨s₁, s₂, rfl, rfl, rfl⟩ := Text.split_bytes heq (atBoundary_of_mem hlit hv)
        exact ⟨s₁, s₂, rfl, (hlength s₁).1 hu, (hrest s₂).1 hv⟩
      · rintro ⟨s₁, s₂, rfl, hs₁, hs₂⟩
        exact ⟨Text.bytes s₁, Text.bytes s₂, (Text.bytes_append s₁ s₂).symm, (hlength s₁).2 hs₁,
          (hrest s₂).2 hs₂⟩

/-- Behind a run of wildcards that has begun, a pattern with harmless runs means the same in bytes
and in characters. -/
theorem mem_iff_of_runsOk {pattern : Str} {questions : Nat} {star : Bool}
    (hok : runsOk questions star pattern = true) (subject : Str) :
    Text.bytes subject ∈ Glob.language (Glob.gap questions star ++ bytePattern pattern) ↔
      subject ∈ Glob.language (Glob.gap questions star ++ charPattern pattern) := by
  induction pattern generalizing questions star subject with
  | nil => exact mem_gap_iff (by simp [StartsLit]) mem_nil_iff hok subject
  | cons c pattern ih =>
      rcases wildcard_cases c with rfl | rfl | hc
      · rw [bytePattern_one, Glob.mem_gap_one, ih (by simpa [runsOk] using hok)]
        exact (Glob.mem_gap_one questions star).symm
      · rw [bytePattern_star, Glob.mem_gap_star, ih (by simpa [runsOk] using hok)]
        exact (Glob.mem_gap_star questions star).symm
      · have hne : c ≠ '?' ∧ c ≠ '*' := by simpa [isWildcard] using hc
        have hsplit : runOk questions star = true ∧ runsOk 0 false pattern = true := by
          simpa [runsOk, hne] using hok
        refine mem_gap_iff (by simpa [StartsLit] using hc) (fun s => ?_) hsplit.1 subject
        rw [bytes_mem_lit hc, mem_charPattern_lit hc]
        -- behind the literal character a new run begins
        have hnew : ∀ rest, Text.bytes rest ∈ Glob.language (bytePattern pattern) ↔
            rest ∈ Glob.language (charPattern pattern) := fun rest => ih hsplit.2 rest
        simp only [hnew]

theorem mem_iff_of_wildcardRunsOk {pattern : Str} (hok : wildcardRunsOk pattern = true)
    (subject : Str) :
    Text.bytes subject ∈ Glob.language (bytePattern pattern) ↔
      subject ∈ Glob.language (charPattern pattern) :=
  mem_iff_of_runsOk hok subject

/-! ## Patterns with another run of wildcards -/

/-- The shortest text that a pattern matches, with `a` for each question mark. -/
def shortest : Str → Str
  | [] => []
  | c :: pattern =>
      if c = '?' then 'a' :: shortest pattern
      else if c = '*' then shortest pattern
      else c :: shortest pattern

section Shortest

variable {pattern : Str} {c : Char}

theorem shortest_lit (hc : isWildcard c = false) : shortest (c :: pattern) = c :: shortest pattern := by
  have hne : c ≠ '?' ∧ c ≠ '*' := by simpa [isWildcard] using hc
  simp [shortest, hne]

theorem mem_shortest (h : c ∈ shortest pattern) : c = 'a' ∨ c ∈ pattern := by
  induction pattern with
  | nil => cases h
  | cons d pattern ih =>
      rcases wildcard_cases d with rfl | rfl | hd
      · rcases List.mem_cons.1 (show c ∈ 'a' :: shortest pattern from h) with rfl | h
        · exact .inl rfl
        · exact (ih h).imp_right (List.mem_cons_of_mem _)
      · exact (ih h).imp_right (List.mem_cons_of_mem _)
      · rw [shortest_lit hd] at h
        rcases List.mem_cons.1 h with rfl | h
        · exact .inr (List.mem_cons_self ..)
        · exact (ih h).imp_right (List.mem_cons_of_mem _)

theorem shortest_mem_charPattern (pattern : Str) :
    shortest pattern ∈ Glob.language (charPattern pattern) := by
  induction pattern with
  | nil => exact Glob.mem_nil.2 rfl
  | cons d pattern ih =>
      rcases wildcard_cases d with rfl | rfl | hd
      · exact Glob.cons_mem_one.2 ih
      · exact Glob.mem_star_of_mem ih
      · rw [shortest_lit hd]
        exact (mem_charPattern_lit hd).2 ⟨_, rfl, ih⟩

theorem shortest_mem_bytePattern (pattern : Str) :
    Text.bytes (shortest pattern) ∈ Glob.language (bytePattern pattern) := by
  induction pattern with
  | nil => exact Glob.mem_nil.2 rfl
  | cons d pattern ih =>
      rcases wildcard_cases d with rfl | rfl | hd
      · rw [bytePattern_one]
        exact Glob.cons_mem_one.2 ih
      · rw [bytePattern_star]
        exact Glob.mem_star_of_mem ih
      · rw [shortest_lit hd]
        exact (bytes_mem_lit hd).2 ⟨_, rfl, ih⟩

theorem minLength_charPattern (pattern : Str) :
    Glob.minLength (charPattern pattern) = (shortest pattern).length := by
  induction pattern with
  | nil => rfl
  | cons d pattern ih =>
      rcases wildcard_cases d with rfl | rfl | hd
      · exact congrArg (· + 1) ih
      · exact ih
      · rw [shortest_lit hd, charPattern, List.map_cons, charToken_lit hd]
        exact congrArg (· + 1) ih

theorem minLength_bytePattern (pattern : Str) :
    Glob.minLength (bytePattern pattern) = (Text.bytes (shortest pattern)).length := by
  induction pattern with
  | nil => rfl
  | cons d pattern ih =>
      rcases wildcard_cases d with rfl | rfl | hd
      · rw [bytePattern_one]
        exact congrArg (· + 1) ih
      · rw [bytePattern_star]
        exact ih
      · have hlits : ∀ l : List UInt8, Glob.minLength (l.map Glob.Token.lit) = l.length := by
          intro l
          induction l with
          | nil => rfl
          | cons b l ihl => exact congrArg (· + 1) ihl
        rw [shortest_lit hd, bytePattern_lit hd, Glob.minLength_append, hlits, ih, Text.bytes_cons,
          List.length_append]

end Shortest

/-- A pattern that ends with a literal character, or is empty. -/
def EndsLit (pattern : Str) : Prop := ∀ c ∈ pattern.getLast?, isWildcard c = false

theorem endsLit_append_cons {run before : Str} {c : Char} (hc : isWildcard c = false)
    (hends : EndsLit before) : EndsLit (run ++ c :: before) := by
  intro d hd
  cases hlast : before.getLast? with
  | none =>
      obtain rfl : before = [] := List.getLast?_eq_none_iff.1 hlast
      obtain rfl : c = d := by simpa using hd
      exact hc
  | some e =>
      obtain rfl : e = d := by
        simpa [List.getLast?_append, List.getLast?_cons, hlast] using hd
      exact hends e hlast

/-- A pattern that is not harmless has a whole run of wildcards that is not. -/
theorem exists_run {pattern run : Str} (hrun : ∀ c ∈ run, isWildcard c = true)
    (hbad : runsOk (run.count '?') (decide ('*' ∈ run)) pattern = false) :
    ∃ before bad after, run ++ pattern = before ++ (bad ++ after) ∧ EndsLit before ∧
      StartsLit after ∧ (∀ c ∈ bad, isWildcard c = true) ∧
      runOk (bad.count '?') (decide ('*' ∈ bad)) = false := by
  induction pattern generalizing run with
  | nil =>
      exact ⟨[], run, [], rfl, by simp [EndsLit], by simp [StartsLit], hrun, hbad⟩
  | cons c pattern ih =>
      have hgrow : isWildcard c = true → ∀ d ∈ run ++ [c], isWildcard d = true := by
        intro hc d hd
        rcases List.mem_append.1 hd with hd | hd
        · exact hrun d hd
        · rwa [List.mem_singleton.1 hd]
      rcases wildcard_cases c with rfl | rfl | hc
      · obtain ⟨before, bad, after, heq, hrest⟩ := ih (hgrow rfl) (by simpa [runsOk] using hbad)
        exact ⟨before, bad, after, by simpa using heq, hrest⟩
      · obtain ⟨before, bad, after, heq, hrest⟩ := ih (hgrow rfl) (by simpa [runsOk] using hbad)
        exact ⟨before, bad, after, by simpa using heq, hrest⟩
      · cases hok : runOk (run.count '?') (decide ('*' ∈ run)) with
        | false =>
            exact ⟨[], run, c :: pattern, rfl, by simp [EndsLit], by simpa [StartsLit] using hc, hrun,
              hok⟩
        | true =>
            have hne : c ≠ '?' ∧ c ≠ '*' := by simpa [isWildcard] using hc
            have hnone : ∀ d ∈ ([] : Str), isWildcard d = true := fun d hd => absurd hd (by simp)
            obtain ⟨before, bad, after, heq, hends, hrest⟩ :=
              ih hnone (by simpa [runsOk, hne, hok] using hbad)
            refine ⟨run ++ c :: before, bad, after, ?_, ?_, hrest⟩
            · rw [List.nil_append] at heq
              rw [heq]
              simp
            · exact endsLit_append_cons hc hends

theorem bytePattern_append (p q : Str) : bytePattern (p ++ q) = bytePattern p ++ bytePattern q := by
  rw [bytePattern, Text.bytes_append, List.map_append]
  rfl

theorem charPattern_append (p q : Str) : charPattern (p ++ q) = charPattern p ++ charPattern q :=
  List.map_append

/-- A run of wildcards takes any word with a symbol for each question mark. -/
theorem mem_run {run : Str} (hrun : ∀ c ∈ run, isWildcard c = true) {w : List UInt8}
    (hw : w.length = run.count '?') : w ∈ Glob.language (bytePattern run) := by
  induction run generalizing w with
  | nil => exact Glob.mem_nil.2 (List.length_eq_zero_iff.1 hw)
  | cons c run ih =>
      have hrest : ∀ d ∈ run, isWildcard d = true := fun d hd => hrun d (List.mem_cons_of_mem _ hd)
      rcases wildcard_cases c with rfl | rfl | hc
      · rw [bytePattern_one]
        cases w with
        | nil => simp at hw
        | cons b w => exact Glob.cons_mem_one.2 (ih hrest (by simpa using hw))
      · rw [bytePattern_star]
        exact Glob.mem_star_of_mem (ih hrest (by simpa using hw))
      · rw [hrun c (List.mem_cons_self ..)] at hc
        cases hc

/-- A run of wildcards asks for a symbol for each question mark. -/
theorem length_shortest_run {run : Str} (hrun : ∀ c ∈ run, isWildcard c = true) :
    (shortest run).length = run.count '?' := by
  induction run with
  | nil => rfl
  | cons c run ih =>
      have hrest := ih fun d hd => hrun d (List.mem_cons_of_mem _ hd)
      rcases wildcard_cases c with rfl | rfl | hc
      · simp [shortest, hrest]
      · simp [shortest, hrest]
      · rw [hrun c (List.mem_cons_self ..)] at hc
        cases hc

theorem shortest_append (p q : Str) : shortest (p ++ q) = shortest p ++ shortest q := by
  induction p with
  | nil => rfl
  | cons c p ih =>
      rcases wildcard_cases c with rfl | rfl | hc
      · exact congrArg ('a' :: ·) ih
      · exact ih
      · rw [List.cons_append, shortest_lit hc, shortest_lit hc, ih, List.cons_append]

/-- Two question marks can share a character of two bytes. -/
theorem two_questions {before bad after : Str} (hrun : ∀ c ∈ bad, isWildcard c = true)
    (htwo : 2 ≤ bad.count '?') {subject : Str}
    (hsubject : subject =
      shortest before ++ ('é' :: List.replicate (bad.count '?' - 2) 'a') ++ shortest after) :
    Text.bytes subject ∈ Glob.language (bytePattern (before ++ (bad ++ after))) ∧
      subject ∉ Glob.language (charPattern (before ++ (bad ++ after))) := by
  constructor
  · have hascii : ∀ n, Text.utf8Len (List.replicate n 'a') = n := by
      intro n
      rw [Text.utf8Len_of_isAscii, List.length_replicate]
      intro c hc
      rw [List.eq_of_mem_replicate hc]
      rfl
    have hlength : (Text.bytes ('é' :: List.replicate (bad.count '?' - 2) 'a')).length =
        bad.count '?' := by
      have hsize : Char.utf8Size 'é' = 2 := by decide
      rw [Text.length_bytes, Text.utf8Len_cons, hascii, hsize]
      omega
    rw [hsubject, List.append_assoc, Text.bytes_append, Text.bytes_append, bytePattern_append,
      bytePattern_append]
    exact Glob.mem_append.2 ⟨_, shortest_mem_bytePattern before, _,
      Glob.mem_append.2 ⟨_, mem_run hrun hlength, _, shortest_mem_bytePattern after, rfl⟩, rfl⟩
  · -- there is a character too few
    intro hmem
    have hle := Glob.minLength_le hmem
    rw [minLength_charPattern, shortest_append, shortest_append, hsubject] at hle
    simp only [List.length_append, List.length_cons, List.length_replicate,
      length_shortest_run hrun] at hle
    omega

/-- Behind what a pattern with a literal end matches, a character can begin. -/
theorem atBoundary_after {before subject : Str} (hends : EndsLit before) {u v : List UInt8}
    (hu : u ∈ Glob.language (bytePattern before)) (heq : u ++ v = Text.bytes subject) :
    Text.AtBoundary v := by
  rcases List.eq_nil_or_concat' before with rfl | ⟨init, c, rfl⟩
  · obtain rfl : u = [] := Glob.mem_nil.1 hu
    rw [List.nil_append] at heq
    rw [heq]
    exact Text.atBoundary_bytes subject
  · have hc : isWildcard c = false := hends c (by simp)
    rw [bytePattern_append] at hu
    obtain ⟨x, _, y, hy, rfl⟩ := Glob.mem_append.1 hu
    obtain rfl : y = String.utf8EncodeChar c := by
      rw [bytePattern_lit hc, Glob.mem_lits_append] at hy
      obtain ⟨w, hw, rfl⟩ := hy
      rw [Glob.mem_nil.1 hw, List.append_nil]
    -- the last character begins at a boundary and is whole
    rw [List.append_assoc] at heq
    have hlast : Text.AtBoundary (String.utf8EncodeChar c ++ v) := by
      obtain ⟨b, rest, hencode, hfirst, _⟩ := Text.utf8EncodeChar_eq_cons c
      rw [hencode]
      exact hfirst
    obtain ⟨_, s₂, _, _, hs₂⟩ := Text.split_bytes heq hlast
    cases s₂ with
    | nil => exact absurd hs₂.symm (by simp [Text.bytes, String.utf8EncodeChar_ne_nil])
    | cons d rest =>
        rw [Text.bytes_cons] at hs₂
        rw [← (Text.utf8EncodeChar_append_inj hs₂).2]
        exact Text.atBoundary_bytes rest

/-- Where a question mark stands between literal characters, what it takes is an ASCII character. -/
theorem exists_ascii_of_mem {before after subject : Str} (hends : EndsLit before)
    (hstarts : StartsLit after)
    (hmem : Text.bytes subject ∈ Glob.language (bytePattern (before ++ '?' :: after))) :
    ∃ s₁ d s₂, subject = s₁ ++ d :: s₂ ∧ Text.isAscii d = true ∧
      Text.bytes s₁ ∈ Glob.language (bytePattern before) ∧
      Text.bytes s₂ ∈ Glob.language (bytePattern after) := by
  rw [bytePattern_append, bytePattern_one] at hmem
  obtain ⟨u, hu, w, hw, heq⟩ := Glob.mem_append.1 hmem
  cases w with
  | nil => exact absurd hw (by simp)
  | cons b v =>
      rw [Glob.cons_mem_one] at hw
      obtain ⟨s₁, t, rfl, rfl, ht⟩ := Text.split_bytes heq (atBoundary_after hends hu heq)
      have hcut : [b] ++ v = Text.bytes t := ht.symm
      obtain ⟨t₁, s₂, rfl, ht₁, rfl⟩ := Text.split_bytes hcut (atBoundary_of_mem hstarts hw)
      -- a text of one byte is one ASCII character
      have hlen : Text.utf8Len t₁ = 1 := by rw [← Text.length_bytes, ht₁, List.length_singleton]
      have hle := Text.length_le_utf8Len t₁
      cases t₁ with
      | nil => cases ht₁
      | cons d rest =>
          rw [List.length_cons] at hle
          obtain rfl : rest = [] := List.length_eq_zero_iff.1 (by omega)
          have hascii := Text.utf8Len_eq_length_iff.1 hlen d (List.mem_singleton_self d)
          exact ⟨s₁, d, s₂, rfl, hascii, hu, hw⟩

/-- A question mark between literal characters takes a character of two bytes in the documentation,
and does not take it in the code. -/
theorem one_question {before after : Str} (hends : EndsLit before) (hstarts : StartsLit after) :
    shortest before ++ 'é' :: shortest after ∈
        Glob.language (charPattern (before ++ '?' :: after)) ∧
      Text.bytes (shortest before ++ 'é' :: shortest after) ∉
        Glob.language (bytePattern (before ++ '?' :: after)) := by
  constructor
  · rw [charPattern_append]
    exact Glob.mem_append.2 ⟨_, shortest_mem_charPattern before, _,
      Glob.cons_mem_one.2 (shortest_mem_charPattern after), rfl⟩
  · intro hmem
    obtain ⟨s₁, d, s₂, heq, hd, hs₁, hs₂⟩ := exists_ascii_of_mem hends hstarts hmem
    have hne : d ≠ 'é' := by
      rintro rfl
      exact absurd hd (by decide)
    -- the parts before and after take what they need at least, so one of them takes just that
    have hle₁ := Glob.minLength_le hs₁
    have hle₂ := Glob.minLength_le hs₂
    rw [minLength_bytePattern, Text.length_bytes, Text.length_bytes] at hle₁ hle₂
    have hsize : Text.utf8Len (shortest before) + (2 + Text.utf8Len (shortest after)) =
        Text.utf8Len s₁ + (1 + Text.utf8Len s₂) := by
      have htwo : Char.utf8Size 'é' = 2 := by decide
      have hone := Text.utf8Size_of_isAscii hd
      simpa [htwo, hone] using congrArg Text.utf8Len heq
    have hbytes := congrArg Text.bytes heq
    rw [Text.bytes_append, Text.bytes_append] at hbytes
    by_cases hsame : Text.utf8Len (shortest before) = Text.utf8Len s₁
    · have hprefix := (List.append_inj hbytes (by simpa using hsame)).1
      rw [Text.bytes_injective hprefix] at heq
      have hrest := List.append_cancel_left heq
      exact hne (List.cons.inj hrest).1.symm
    · have hlength : (Text.bytes (shortest after)).length = (Text.bytes s₂).length := by
        rw [Text.length_bytes, Text.length_bytes]
        omega
      have hfronts : Text.bytes (shortest before ++ ['é']) ++ Text.bytes (shortest after) =
          Text.bytes (s₁ ++ [d]) ++ Text.bytes s₂ := by
        simpa [Text.bytes] using hbytes
      have hfront := Text.bytes_injective (List.append_inj' hfronts hlength).1
      exact hne (List.cons.inj (List.append_inj' hfront rfl).2).1.symm

/-- With fewer than two question marks, only a lone one is not harmless. -/
theorem eq_question_of_not_runOk {run : Str} (hrun : ∀ c ∈ run, isWildcard c = true)
    (hbad : runOk (run.count '?') (decide ('*' ∈ run)) = false) (hfew : run.count '?' < 2) :
    run = ['?'] := by
  obtain ⟨hsome, hstar⟩ : run.count '?' ≠ 0 ∧ (run.count '?' = 1 → '*' ∉ run) := by
    simpa [runOk] using hbad
  have hone : run.count '?' = 1 := by omega
  have hall : ∀ c ∈ run, c = '?' := by
    intro c hc
    rcases wildcard_cases c with rfl | rfl | hlit
    · rfl
    · exact absurd hc (hstar hone)
    · rw [hrun c hc] at hlit
      cases hlit
  have hreplicate := List.eq_replicate_of_mem hall
  rw [hreplicate, List.count_replicate_self] at hone
  rw [hreplicate, hone]
  rfl

/-- The characters of the subjects that tell the two languages apart. -/
theorem exists_disagreement {pattern : Str} (hbad : wildcardRunsOk pattern = false) :
    ∃ subject, (∀ c ∈ subject, c = 'a' ∨ c = 'é' ∨ c ∈ pattern) ∧
      ¬ (Text.bytes subject ∈ Glob.language (bytePattern pattern) ↔
        subject ∈ Glob.language (charPattern pattern)) := by
  have hnone : ∀ c ∈ ([] : Str), isWildcard c = true := fun c hc => absurd hc (by simp)
  obtain ⟨before, bad, after, heq, hends, hstarts, hrun, hbadRun⟩ := exists_run hnone hbad
  obtain rfl : pattern = before ++ (bad ++ after) := heq
  have hbefore : ∀ c ∈ shortest before, c = 'a' ∨ c = 'é' ∨ c ∈ before ++ (bad ++ after) :=
    fun c hc => (mem_shortest hc).imp_right fun h => .inr (List.mem_append_left _ h)
  have hafter : ∀ c ∈ shortest after, c = 'a' ∨ c = 'é' ∨ c ∈ before ++ (bad ++ after) :=
    fun c hc => (mem_shortest hc).imp_right fun h =>
      .inr (List.mem_append_right _ (List.mem_append_right _ h))
  by_cases htwo : 2 ≤ bad.count '?'
  · obtain ⟨hbytes, hchars⟩ := two_questions hrun htwo (Eq.refl (shortest before ++
      ('é' :: List.replicate (bad.count '?' - 2) 'a') ++ shortest after))
    refine ⟨_, ?_, fun hiff => hchars (hiff.1 hbytes)⟩
    intro c hc
    rcases List.mem_append.1 hc with hc | hc
    · rcases List.mem_append.1 hc with hc | hc
      · exact hbefore c hc
      · rcases List.mem_cons.1 hc with rfl | hc
        · exact .inr (.inl rfl)
        · exact .inl (List.eq_of_mem_replicate hc)
    · exact hafter c hc
  · -- a single question mark without a star
    have hsingle := eq_question_of_not_runOk hrun hbadRun (Nat.lt_of_not_le htwo)
    subst hsingle
    obtain ⟨hchars, hbytes⟩ := one_question hends hstarts
    refine ⟨_, ?_, fun hiff => hbytes (hiff.2 hchars)⟩
    intro c hc
    rcases List.mem_append.1 hc with hc | hc
    · exact hbefore c hc
    · rcases List.mem_cons.1 hc with rfl | hc
      · exact .inr (.inl rfl)
      · exact hafter c hc

theorem bytePattern_questions (n : Nat) :
    bytePattern (List.replicate n '?') = Glob.gap n false := by
  induction n with
  | zero => rfl
  | succ n ih =>
      rw [List.replicate_succ, bytePattern_one, ih]
      rfl

theorem charPattern_questions (n : Nat) :
    charPattern (List.replicate n '?') = Glob.gap n false := by
  induction n with
  | zero => rfl
  | succ n ih => exact congrArg (Glob.Token.one :: ·) ih

/-! ## The matcher and its documentation -/

/-- What is relied on of the lower case of a text: a text is in lower case if its characters are, and
the characters `?`, `a` and `é` are. -/
structure LowerCase (lower : Str → Str) : Prop where
  fixed_iff : ∀ s, lower s = s ↔ ∀ c ∈ s, lower [c] = [c]
  fixed : ∀ c ∈ ['?', 'a', 'é'], lower [c] = [c]

section Documentation

variable {C : Type*} (api : LruCache C Str Bool) {lower : Str → Str}

/-- Whatever was matched before, `matches` says whether the subject is in the language of the pattern
over characters, as the documentation has it. -/
def Documented (lower : Str → Str) (pattern subject : Str) : Prop :=
  ∀ earlier : List Str, ∃ self history answer next,
    (CachedGlobMatcher.machine api lower).exec (.new api lower pattern) earlier =
        some (self, history) ∧
      self.matches api lower subject = some (answer, next) ∧
      (answer = true ↔ subject ∈ Glob.language (charPattern pattern))

/-- For texts in lower case, the documentation holds where the two languages agree. -/
theorem documented_iff_agree {pattern subject : Str} (hpattern : lower pattern = pattern)
    (hsubject : lower subject = subject) :
    Documented api lower pattern subject ↔
      (Text.bytes subject ∈ Glob.language (bytePattern pattern) ↔
        subject ∈ Glob.language (charPattern pattern)) := by
  have hnew : (CachedGlobMatcher.new api lower pattern).patternLower = pattern := hpattern
  constructor
  · intro hdocumented
    obtain ⟨self, history, answer, next, hexec, hmatches, hanswer⟩ := hdocumented []
    obtain ⟨rfl, rfl⟩ : CachedGlobMatcher.new api lower pattern = self ∧ [] = history := by
      simpa [Machine.exec] using hexec
    obtain ⟨answer', next', hmatches', -, -, hanswer'⟩ :=
      CachedGlobMatcher.matches_spec lower (CachedGlobMatcher.remembers_new api lower pattern) subject
    rw [hmatches'] at hmatches
    obtain ⟨rfl, rfl⟩ : answer' = answer ∧ next' = next := by simpa using hmatches
    rw [hsubject, hnew] at hanswer'
    exact hanswer'.symm.trans hanswer
  · intro hagree earlier
    obtain ⟨self, history, hexec, hsame, hself⟩ :=
      CachedGlobMatcher.exec_spec lower (CachedGlobMatcher.remembers_new api lower pattern) earlier
    obtain ⟨answer, next, hmatches, -, -, hanswer⟩ :=
      CachedGlobMatcher.matches_spec lower hself subject
    refine ⟨self, history, answer, next, hexec, hmatches, ?_⟩
    rw [hsubject, hsame, hnew] at hanswer
    exact hanswer.trans hagree

/-- The patterns that are matched as documented, whatever the subject, are those whose runs of
wildcards are harmless; the subjects that are, whatever the pattern, are the ASCII ones. -/
theorem documented_iff (hlower : LowerCase lower) :
    (∀ pattern, lower pattern = pattern →
        ((∀ subject, lower subject = subject → Documented api lower pattern subject) ↔
          wildcardRunsOk pattern = true)) ∧
      ∀ subject, lower subject = subject →
        ((∀ pattern, lower pattern = pattern → Documented api lower pattern subject) ↔
          ∀ c ∈ subject, Text.isAscii c = true) := by
  constructor
  · intro pattern hpattern
    constructor
    · intro hdocumented
      by_contra hbad
      obtain ⟨subject, hchars, hdisagree⟩ := exists_disagreement (Bool.eq_false_iff.2 hbad)
      have hsubject : lower subject = subject := by
        apply (hlower.fixed_iff subject).2
        intro c hc
        rcases hchars c hc with rfl | rfl | hc
        · exact hlower.fixed 'a' (by decide)
        · exact hlower.fixed 'é' (by decide)
        · exact (hlower.fixed_iff pattern).1 hpattern c hc
      exact hdisagree ((documented_iff_agree api hpattern hsubject).1 (hdocumented subject hsubject))
    · intro hok subject hsubject
      exact (documented_iff_agree api hpattern hsubject).2 (mem_iff_of_wildcardRunsOk hok subject)
  · intro subject hsubject
    constructor
    · intro hdocumented
      -- as many question marks as characters
      have hpattern : lower (List.replicate subject.length '?') =
          List.replicate subject.length '?' := by
        apply (hlower.fixed_iff _).2
        intro c hc
        rw [List.eq_of_mem_replicate hc]
        exact hlower.fixed '?' (by decide)
      have hagree := (documented_iff_agree api hpattern hsubject).1 (hdocumented _ hpattern)
      rw [bytePattern_questions, charPattern_questions, Glob.mem_gap, Glob.mem_gap,
        Text.length_bytes] at hagree
      exact Text.utf8Len_eq_length_iff.1 (hagree.2 rfl)
    · intro hascii pattern hpattern
      exact (documented_iff_agree api hpattern hsubject).2 (mem_iff_of_isAscii hascii pattern)

end Documentation

section Example

/-- Lower case for ASCII characters; other characters are left alone. -/
def asciiLower (s : Str) : Str := s.map Char.toLower

theorem lowerCase_asciiLower : LowerCase asciiLower :=
  { fixed_iff := by
      intro s
      induction s with
      | nil => simp [asciiLower]
      | cons c s ih => simpa [asciiLower] using fun _ => by simpa [asciiLower] using ih
    fixed := by simp [asciiLower] }

/-- `é` is one character, which a question mark and a star take together. -/
theorem documented_one_star :
    Documented LruCache.list asciiLower "caf?*".toList "café".toList :=
  ((documented_iff LruCache.list lowerCase_asciiLower).1 "caf?*".toList (by decide)).2 (by decide)
    "café".toList (by decide)

/-- A question mark alone does not match `é`. -/
theorem not_documented_one : ¬ Documented LruCache.list asciiLower ['?'] ['é'] := by
  intro hdocumented
  obtain ⟨self, history, answer, next, hexec, hmatches, hanswer⟩ := hdocumented []
  obtain ⟨rfl, rfl⟩ : CachedGlobMatcher.new LruCache.list asciiLower ['?'] = self ∧ [] = history := by
    simpa [Machine.exec] using hexec
  have hfalse : ((CachedGlobMatcher.new LruCache.list asciiLower ['?']).matches LruCache.list
      asciiLower ['é']).map Prod.fst = some false := by decide
  rw [hmatches, Option.map_some, Option.some.injEq] at hfalse
  have hmem : ['é'] ∈ Glob.language (charPattern ['?']) := by decide
  exact Bool.noConfusion ((hanswer.2 hmem).symm.trans hfalse)

end Example

end TraceSampling
end DdTrace
