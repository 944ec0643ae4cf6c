import ImportOrder.Toml.Writer

/-!
# Written values are read back

Each of the readers of TOML is the inverse of its writer, whatever comes after the
written value. A text is written in one of four forms. Between double quotes a character
is written as it is, by a mark of its own, or by its number (`escaped_cases`); between
single quotes it is written as it is. Where a text goes over several lines, quotes may
stand next to those that close it, and how many stand in a row decides which of them
belong to the text.

* `string?_writeString` — every text is read back, in whichever form it was written;
* `value?_writeStrings` — so is every sequence of texts, on one line or over several;
* `value?_toString` — and every number that is not too large.
-/

namespace ImportOrder.Toml

/-! ## Characters -/

theorem scalar?_toNat (c : Char) : scalar? c.toNat = some c := by
  have hvalid : c.toNat.isValidChar := c.valid
  rw [scalar?, dif_pos hvalid]
  exact congrArg some (Char.ext (UInt32.toNat_inj.1 rfl))

theorem hexNumber?_upperHex :
    ∀ n < 128, hexNumber? ['0', '0', upperHex (n / 16), upperHex (n % 16)] = some n := by
  decide

theorem toNat_of_isControl {c : Char} (h : isControl c = true) : c.toNat < 128 := by
  simp only [isControl, Bool.or_eq_true, Bool.and_eq_true, decide_eq_true_eq, beq_iff_eq] at h
  omega

/-- A character that is no control character may stand in a string, a line break
apart. -/
theorem isPlainChar_of_not_isControl {c : Char} (hcontrol : isControl c = false)
    (hbreak : c ≠ '\n') :
    isPlainChar c = true := by
  by_cases htab : c = '\t'
  · rw [htab]
    rfl
  · simp [isControl, hbreak, htab] at hcontrol
    simp [isPlainChar, htab, hcontrol]

/-- The characters with a backslash form of their own, each with its mark. -/
def marks : List (Char × Char) :=
  [('b', '\x08'), ('t', '\t'), ('n', '\n'), ('f', '\x0c'), ('r', '\r'), ('\\', '\\')]

/-- **How a character is written** between double quotes: as it is, by a mark of its
own, or by its number. -/
theorem escaped_cases (oneLine : Bool) (c : Char) :
    (escaped oneLine c = [c] ∧ c ≠ '\\' ∧ (c = '\n' ∧ oneLine = false ∨ isPlainChar c = true)) ∨
      (∃ mark, (mark, c) ∈ marks ∧ escaped oneLine c = ['\\', mark]) ∨
      (isControl c = true ∧
        escaped oneLine c =
          ['\\', 'u', '0', '0', upperHex (c.toNat / 16), upperHex (c.toNat % 16)]) := by
  fun_cases escaped oneLine c with
  | case1 hc => exact .inr (.inl ⟨'b', by simp_all [marks], rfl⟩)
  | case2 _ hc => exact .inr (.inl ⟨'t', by simp_all [marks], rfl⟩)
  | case3 _ _ hc => exact .inr (.inl ⟨'n', by simp_all [marks], rfl⟩)
  | case4 _ _ _ hc => exact .inr (.inl ⟨'f', by simp_all [marks], rfl⟩)
  | case5 _ _ _ _ hc => exact .inr (.inl ⟨'r', by simp_all [marks], rfl⟩)
  | case6 _ _ _ _ _ hc => exact .inr (.inl ⟨'\\', by simp_all [marks], rfl⟩)
  | case7 _ _ _ _ _ _ hcontrol => exact .inr (.inr ⟨hcontrol, rfl⟩)
  | case8 _ _ hbreak _ _ hback hcontrol =>
    refine .inl ⟨rfl, by simpa using hback, ?_⟩
    by_cases hc : c = '\n'
    · exact .inl ⟨hc, by simpa [hc] using hbreak⟩
    · exact .inr (isPlainChar_of_not_isControl (Bool.eq_false_iff.2 hcontrol) hc)

theorem basicString_plain {c : Char} (hquote : c ≠ '"') (hback : c ≠ '\\')
    (hplain : isPlainChar c = true) (done rest : List Char) :
    basicString done (c :: rest) = basicString (c :: done) rest := by
  rw [basicString]
  · simp [hback, hplain]
  all_goals simp_all

theorem basicString_unicode {c : Char} (hcontrol : isControl c = true) (done rest : List Char) :
    basicString done
      (['\\', 'u', '0', '0', upperHex (c.toNat / 16), upperHex (c.toNat % 16)] ++ rest) =
      basicString (c :: done) rest := by
  have hhex := hexNumber?_upperHex c.toNat (toNat_of_isControl hcontrol)
  simp only [List.cons_append, List.nil_append, basicString, hhex, Option.bind_eq_bind,
    Option.bind_some, scalar?_toNat]

theorem basicString_marked {mark c : Char} (h : (mark, c) ∈ marks) (done rest : List Char) :
    basicString done (['\\', mark] ++ rest) = basicString (c :: done) rest := by
  simp only [marks, List.mem_cons, Prod.mk.injEq, List.not_mem_nil, or_false] at h
  rcases h with ⟨rfl, rfl⟩ | ⟨rfl, rfl⟩ | ⟨rfl, rfl⟩ | ⟨rfl, rfl⟩ | ⟨rfl, rfl⟩ | ⟨rfl, rfl⟩ <;> rfl

/-- A character that is written on one line is read back. -/
theorem basicString_escaped {c : Char} (hquote : c ≠ '"') (done rest : List Char) :
    basicString done (escaped true c ++ rest) = basicString (c :: done) rest := by
  rcases escaped_cases true c with ⟨hself, hback, hplain⟩ | ⟨mark, hmark, hwritten⟩ |
      ⟨hcontrol, hwritten⟩
  · rw [hself]
    refine basicString_plain hquote hback ?_ done rest
    simpa using hplain
  · rw [hwritten, basicString_marked hmark]
  · rw [hwritten, basicString_unicode hcontrol]

/-- A quote is escaped where it could end the text, and starts the count of quotes
anew. -/
theorem escapedFrom_quote (oneLine : Bool) (cs : List Char) : escapedFrom oneLine 0 ('"' :: cs) =
    '\\' :: '"' :: escapedFrom oneLine (if oneLine then 0 else 2) cs := rfl

theorem escapedFrom_freeQuote (oneLine : Bool) (n : Nat) (cs : List Char) :
    escapedFrom oneLine (n + 1) ('"' :: cs) = '"' :: escapedFrom oneLine n cs := rfl

theorem escapedFrom_other {c : Char} (hc : c ≠ '"') (oneLine : Bool) (n : Nat) (cs : List Char) :
    escapedFrom oneLine n (c :: cs) =
      escaped oneLine c ++ escapedFrom oneLine (if oneLine then 0 else 2) cs := by
  simp [escapedFrom, hc]

/-- **A text on one line** is read back. -/
theorem basicString_escapedFrom (cs done rest : List Char) :
    basicString done (escapedFrom true 0 cs ++ '"' :: rest) =
      some (String.ofList (done.reverse ++ cs), rest) := by
  induction cs generalizing done with
  | nil => simp [escapedFrom, basicString]
  | cons c cs ih =>
    by_cases hquote : c = '"'
    · subst hquote
      rw [escapedFrom_quote, if_pos rfl, List.cons_append, List.cons_append, basicString, ih]
      simp
    · rw [escapedFrom_other hquote, if_pos rfl, List.append_assoc, basicString_escaped hquote, ih]
      simp

/-! ## Over several lines -/

theorem multilineBasic_plain {c : Char} (hquote : c ≠ '"') (hback : c ≠ '\\')
    (hplain : c = '\n' ∨ isPlainChar c = true) (done rest : List Char) :
    multilineBasic false done (c :: rest) = multilineBasic false (c :: done) rest := by
  have hreturn : c ≠ '\r' := by
    rintro rfl
    revert hplain
    decide
  rw [multilineBasic]
  · simp [hback, hplain]
  all_goals simp_all

theorem multilineBasic_unicode {c : Char} (hcontrol : isControl c = true) (done rest : List Char) :
    multilineBasic false done
      (['\\', 'u', '0', '0', upperHex (c.toNat / 16), upperHex (c.toNat % 16)] ++ rest) =
      multilineBasic false (c :: done) rest := by
  have hhex := hexNumber?_upperHex c.toNat (toNat_of_isControl hcontrol)
  simp only [List.cons_append, List.nil_append, multilineBasic, hhex, Option.bind_eq_bind,
    Option.bind_some, scalar?_toNat]

theorem multilineBasic_marked {mark c : Char} (h : (mark, c) ∈ marks) (done rest : List Char) :
    multilineBasic false done (['\\', mark] ++ rest) = multilineBasic false (c :: done) rest := by
  simp only [marks, List.mem_cons, Prod.mk.injEq, List.not_mem_nil, or_false] at h
  rcases h with ⟨rfl, rfl⟩ | ⟨rfl, rfl⟩ | ⟨rfl, rfl⟩ | ⟨rfl, rfl⟩ | ⟨rfl, rfl⟩ | ⟨rfl, rfl⟩ <;> rfl

/-- Whatever is written for a character other than a quote is read as this character. -/
theorem multilineBasic_escaped {c : Char} (hquote : c ≠ '"') (done rest : List Char) :
    multilineBasic false done (escaped false c ++ rest) =
      multilineBasic false (c :: done) rest := by
  rcases escaped_cases false c with ⟨hself, hback, hplain⟩ | ⟨mark, hmark, hwritten⟩ |
      ⟨hcontrol, hwritten⟩
  · rw [hself]
    exact multilineBasic_plain hquote hback (hplain.imp And.left id) done rest
  · rw [hwritten, multilineBasic_marked hmark]
  · rw [hwritten, multilineBasic_unicode hcontrol]

/-- A quote that is followed by something else is part of the text. -/
theorem multilineBasic_quote {c : Char} (hc : c ≠ '"') (done rest : List Char) :
    multilineBasic false done ('"' :: c :: rest) =
      multilineBasic false ('"' :: done) (c :: rest) := by
  rw [multilineBasic]
  · rfl
  all_goals simp_all

/-- So is the first of two quotes that are followed by something else. -/
theorem multilineBasic_quotes {c : Char} (hc : c ≠ '"') (done rest : List Char) :
    multilineBasic false done ('"' :: '"' :: c :: rest) =
      multilineBasic false ('"' :: done) ('"' :: c :: rest) := by
  rw [multilineBasic]
  · rfl
  all_goals simp_all

/-- Of four quotes at the end the first is part of the text. -/
theorem multilineBasic_fourth {rest : List Char} (hrest : ∀ tail, rest ≠ '"' :: tail)
    (done : List Char) :
    multilineBasic false done ('"' :: '"' :: '"' :: '"' :: rest) =
      some (String.ofList ('"' :: done).reverse, rest) := by
  rw [multilineBasic]
  exact hrest

/-- What is written of a text begins with a quote that needs no backslash, or with
something else. That is a line break only if the text has one. -/
theorem escapedFrom_cases (oneLine : Bool) (n : Nat) (cs : List Char) :
    cs = [] ∨ (∃ m tail, n = m + 1 ∧ cs = '"' :: tail) ∨
      ∃ c rest, escapedFrom oneLine n cs = c :: rest ∧ c ≠ '"' ∧ c ≠ '\r' ∧
        (c = '\n' → '\n' ∈ cs) := by
  cases cs with
  | nil => exact .inl rfl
  | cons c cs =>
    by_cases hquote : c = '"'
    · subst hquote
      cases n with
      | zero => exact .inr (.inr ⟨_, _, escapedFrom_quote oneLine cs, by decide, by decide, nofun⟩)
      | succ m => exact .inr (.inl ⟨m, cs, rfl, rfl⟩)
    · rw [escapedFrom_other hquote]
      rcases escaped_cases oneLine c with ⟨hself, -, hplain⟩ | ⟨mark, -, hmark⟩ | ⟨-, hnumber⟩
      · have hreturn : c ≠ '\r' := by
          rintro rfl
          revert hplain
          simp [isPlainChar]
        rw [hself]
        exact .inr (.inr ⟨c, _, rfl, hquote, hreturn, fun hbreak => hbreak ▸ List.mem_cons_self⟩)
      · rw [hmark]
        exact .inr (.inr ⟨_, _, rfl, by decide, by decide, nofun⟩)
      · rw [hnumber]
        exact .inr (.inr ⟨_, _, rfl, by decide, by decide, nofun⟩)

/-- **A text over several lines** is read back. Up to two quotes at its end stand before
the three that close it, and how many quotes stand in a row decides whether one of them
already belongs to the end. -/
theorem multilineBasic_escapedFrom {rest : List Char} (hrest : ∀ tail, rest ≠ '"' :: tail)
    (cs done : List Char) {n : Nat} (hn : n ≤ 2) :
    multilineBasic false done (escapedFrom false n cs ++ '"' :: '"' :: '"' :: rest) =
      some (String.ofList (done.reverse ++ cs), rest) := by
  induction cs generalizing done n with
  | nil => rw [escapedFrom, List.nil_append, multilineBasic_close hrest, List.append_nil]
  | cons c cs ih =>
    by_cases hquote : c = '"'
    · subst hquote
      cases n with
      | zero =>
        rw [escapedFrom_quote, if_neg Bool.false_ne_true, List.cons_append, List.cons_append,
          multilineBasic, ih _ (Nat.le_refl 2)]
        simp
      | succ m =>
        have hnext := ih ('"' :: done) (n := m) (by omega)
        rw [List.reverse_cons, List.append_assoc, List.singleton_append] at hnext
        rw [escapedFrom_freeQuote, List.cons_append, ← hnext]
        rcases escapedFrom_cases false m cs with rfl | ⟨k, tail, rfl, rfl⟩ | ⟨c, tail, hcs, hc, -⟩
        · rw [escapedFrom, List.nil_append, multilineBasic_fourth hrest, multilineBasic_close hrest]
        · obtain rfl : k = 0 := by omega
          rw [escapedFrom_freeQuote, List.cons_append]
          rcases escapedFrom_cases false 0 tail with rfl | ⟨k, _, h, -⟩ | ⟨c, tail', htail, hc, -⟩
          · rw [escapedFrom, List.nil_append, multilineBasic_fourth hrest]
            rfl
          · cases h
          · rw [htail, List.cons_append, multilineBasic_quotes hc]
        · rw [hcs, List.cons_append, multilineBasic_quote hc]
    · rw [escapedFrom_other hquote, if_neg Bool.false_ne_true, List.append_assoc,
        multilineBasic_escaped hquote, ih _ (Nat.le_refl 2)]
      simp

/-! ## Between single quotes -/

/-- Between single quotes everything is read as it stands. -/
theorem literalString_append {cs : List Char} (hplain : ∀ c ∈ cs, isPlainChar c = true)
    (hquote : '\'' ∉ cs) (done rest : List Char) :
    literalString done (cs ++ '\'' :: rest) = some (String.ofList (done.reverse ++ cs), rest) := by
  induction cs generalizing done with
  | nil => simp [literalString]
  | cons c cs ih =>
    obtain ⟨hc, hquote⟩ := not_or.1 (mt List.mem_cons.2 hquote)
    obtain ⟨hplainc, hplain⟩ := List.forall_mem_cons.1 hplain
    rw [List.cons_append, literalString, if_pos hplainc, ih hplain hquote]
    · simp
    · exact fun h => hc h.symm

theorem longestRow_self (q : Char) (current best : Nat) (cs : List Char) :
    longestRow q current best (q :: cs) = longestRow q (current + 1) best cs := by
  simp [longestRow]

theorem le_longestRow (q : Char) (current best : Nat) (cs : List Char) :
    current ≤ longestRow q current best cs := by
  have hmax : ∀ current best, max current best ≤ longestRow q current best cs := by
    induction cs with
    | nil => exact fun _ _ => Nat.le_refl _
    | cons c cs ih =>
      intro current best
      rw [longestRow]
      split
      · exact Nat.le_trans (by omega) (ih (current + 1) best)
      · exact Nat.le_trans (by omega) (ih 0 (max current best))
  exact Nat.le_trans (Nat.le_max_left _ _) (hmax current best)

/-- Of four quotes at the end the first is part of the text. -/
theorem multilineLiteral_fourth {rest : List Char} (hrest : ∀ tail, rest ≠ '\'' :: tail)
    (done : List Char) :
    multilineLiteral done ('\'' :: '\'' :: '\'' :: '\'' :: rest) =
      some (String.ofList ('\'' :: done).reverse, rest) := by
  rw [multilineLiteral]
  exact hrest

/-- Between three single quotes a plain character or a line break is read as itself. -/
theorem multilineLiteral_plain {c : Char} (hquote : c ≠ '\'')
    (hplain : c = '\n' ∨ isPlainChar c = true) (done rest : List Char) :
    multilineLiteral done (c :: rest) = multilineLiteral (c :: done) rest := by
  have hreturn : c ≠ '\r' := by
    rintro rfl
    revert hplain
    decide
  rw [multilineLiteral]
  · simp [hplain]
  all_goals simp_all

theorem multilineLiteral_quote {c : Char} (hc : c ≠ '\'') (done rest : List Char) :
    multilineLiteral done ('\'' :: c :: rest) = multilineLiteral ('\'' :: done) (c :: rest) := by
  rw [multilineLiteral]
  · rfl
  all_goals simp_all

theorem multilineLiteral_quotes {c : Char} (hc : c ≠ '\'') (done rest : List Char) :
    multilineLiteral done ('\'' :: '\'' :: c :: rest) =
      multilineLiteral ('\'' :: done) ('\'' :: c :: rest) := by
  rw [multilineLiteral]
  · rfl
  all_goals simp_all

/-- **A text between three single quotes** is read back, if no three of them stand in a
row in it. As between double quotes, the number of quotes in a row decides where the end
begins. -/
theorem multilineLiteral_append {rest : List Char} (hrest : ∀ tail, rest ≠ '\'' :: tail)
    {cs : List Char} (hplain : ∀ c ∈ cs, c = '\n' ∨ isPlainChar c = true) {current best : Nat}
    (hrow : longestRow '\'' current best cs ≤ 2) (done : List Char) :
    multilineLiteral done (cs ++ '\'' :: '\'' :: '\'' :: rest) =
      some (String.ofList (done.reverse ++ cs), rest) := by
  induction cs generalizing done current best with
  | nil => rw [List.nil_append, multilineLiteral_close hrest, List.append_nil]
  | cons c cs ih =>
    obtain ⟨hc, htail⟩ := List.forall_mem_cons.1 hplain
    by_cases hquote : c = '\''
    · subst hquote
      rw [longestRow_self] at hrow
      have hnext := ih htail hrow ('\'' :: done)
      rw [List.reverse_cons, List.append_assoc, List.singleton_append] at hnext
      rw [List.cons_append, ← hnext]
      match cs, hrow with
      | [], _ => rw [List.nil_append, multilineLiteral_fourth hrest, multilineLiteral_close hrest]
      | d :: cs, hrow =>
        by_cases hd : d = '\''
        · subst hd
          rw [longestRow_self] at hrow
          match cs, hrow with
          | [], _ =>
            rw [List.cons_append, List.nil_append, multilineLiteral_fourth hrest]
            rfl
          | e :: cs, hrow =>
            have he : e ≠ '\'' := by
              rintro rfl
              rw [longestRow_self] at hrow
              have := le_longestRow '\'' (current + 1 + 1 + 1) best cs
              omega
            rw [List.cons_append, List.cons_append, multilineLiteral_quotes he]
        · rw [List.cons_append, multilineLiteral_quote hd]
    · rw [longestRow, if_neg (by simpa using hquote)] at hrow
      rw [List.cons_append, multilineLiteral_plain hquote hc, ih htail hrow]
      simp

/-! ## Texts -/

/-- What comes after a value in a document: a comma, a closing bracket, the end of the
line, or nothing. -/
def Delimited (rest : List Char) : Prop := ∀ c ∈ rest.head?, c = ',' ∨ c = ']' ∨ c = '\n'

theorem Delimited.ne_cons {rest : List Char} (h : Delimited rest) {c : Char}
    (hc : c ≠ ',' ∧ c ≠ ']' ∧ c ≠ '\n') (tail : List Char) : rest ≠ c :: tail := by
  rintro rfl
  rcases h c rfl with rfl | rfl | rfl
  · exact hc.1 rfl
  · exact hc.2.1 rfl
  · exact hc.2.2 rfl

/-- The line break that a text over several lines may begin with is not part of it. -/
theorem afterFirstBreak_opening {cs text : List Char}
    (h : ∀ c tail, text = c :: tail → c ≠ '\r' ∧ (c = '\n' → '\n' ∈ cs)) :
    afterFirstBreak (opening cs ++ text) = text := by
  by_cases hbreak : '\n' ∈ cs
  · have hopening : opening cs = ['\n'] := by simp [opening, hbreak]
    rw [hopening]
    rfl
  · have hopening : opening cs = [] := by simp [opening, hbreak]
    rw [hopening, List.nil_append]
    cases text with
    | nil => rfl
    | cons c tail =>
      obtain ⟨hreturn, hfirst⟩ := h c tail rfl
      have hc : c ≠ '\n' := fun hc => hbreak (hfirst hc)
      rw [afterFirstBreak, lineBreak?]
      · rfl
      all_goals simp_all

/-- Without control characters there are only plain ones and line breaks. -/
theorem plain_of_not_control {cs : List Char} (h : cs.any isControl = false) :
    ∀ c ∈ cs, c = '\n' ∨ isPlainChar c = true := by
  intro c hc
  by_cases hbreak : c = '\n'
  · exact .inl hbreak
  · exact .inr (isPlainChar_of_not_isControl (by simpa using List.any_eq_false.1 h c hc) hbreak)

theorem string?_literal {cs : List Char} (hcontrol : cs.any isControl = false) (hbreak : '\n' ∉ cs)
    (hquote : '\'' ∉ cs) (hne : cs ≠ []) (rest : List Char) :
    string? (writeForm cs .literal ++ rest) = some (String.ofList cs, rest) := by
  have hwritten : writeForm cs .literal ++ rest = '\'' :: (cs ++ '\'' :: rest) := by
    simp [writeForm]
  have hopen : ∀ tail, cs ++ '\'' :: rest ≠ '\'' :: '\'' :: tail := by
    rintro tail h
    cases cs with
    | nil => exact hne rfl
    | cons c cs =>
      obtain rfl := (List.cons.inj h).1
      exact hquote List.mem_cons_self
  have hplain : ∀ c ∈ cs, isPlainChar c = true := by
    intro c hc
    refine (plain_of_not_control hcontrol c hc).resolve_left ?_
    rintro rfl
    exact hbreak hc
  rw [hwritten, string?, literalString_append hplain hquote]
  · simp
  · exact hopen

section

variable {rest : List Char} (hrest : Delimited rest)

include hrest

theorem string?_basic (cs : List Char) :
    string? (writeForm cs .basic ++ rest) = some (String.ofList cs, rest) := by
  have hwritten : writeForm cs .basic ++ rest = '"' :: (escapedFrom true 0 cs ++ '"' :: rest) := by
    simp [writeForm]
  have hopen : ∀ tail, escapedFrom true 0 cs ++ '"' :: rest ≠ '"' :: '"' :: tail := by
    intro tail
    rcases escapedFrom_cases true 0 cs with rfl | ⟨_, _, h, -⟩ | ⟨c, _, hcs, hc, -⟩
    · rw [escapedFrom, List.nil_append]
      exact fun h => hrest.ne_cons (by decide) tail (List.cons.inj h).2
    · cases h
    · rw [hcs]
      exact fun h => hc (List.cons.inj h).1
  rw [hwritten, string?, basicString_escapedFrom]
  · simp
  · exact hopen

theorem string?_multilineBasic (cs : List Char) :
    string? (writeForm cs .multilineBasic ++ rest) = some (String.ofList cs, rest) := by
  have hwritten : writeForm cs .multilineBasic ++ rest =
      '"' :: '"' :: '"' ::
        (opening cs ++ (escapedFrom false 2 cs ++ '"' :: '"' :: '"' :: rest)) := by
    simp [writeForm]
  have hfirst : ∀ c tail, escapedFrom false 2 cs ++ '"' :: '"' :: '"' :: rest = c :: tail →
      c ≠ '\r' ∧ (c = '\n' → '\n' ∈ cs) := by
    intro c tail h
    rcases escapedFrom_cases false 2 cs with rfl | ⟨m, cs', hm, rfl⟩ |
        ⟨d, _, hcs, -, hreturn, hbreak⟩
    · obtain rfl := (List.cons.inj h).1
      exact ⟨by decide, nofun⟩
    · rw [hm, escapedFrom_freeQuote] at h
      obtain rfl := (List.cons.inj h).1
      exact ⟨by decide, nofun⟩
    · rw [hcs] at h
      obtain rfl := (List.cons.inj h).1
      exact ⟨hreturn, hbreak⟩
  rw [hwritten, string?, afterFirstBreak_opening hfirst,
    multilineBasic_escapedFrom (hrest.ne_cons (by decide)) cs [] (Nat.le_refl 2)]
  simp

theorem string?_multilineLiteral {cs : List Char} (hcontrol : cs.any isControl = false)
    (hrow : longestRow '\'' 0 0 cs ≤ 2) :
    string? (writeForm cs .multilineLiteral ++ rest) = some (String.ofList cs, rest) := by
  have hwritten : writeForm cs .multilineLiteral ++ rest =
      '\'' :: '\'' :: '\'' :: (opening cs ++ (cs ++ '\'' :: '\'' :: '\'' :: rest)) := by
    simp [writeForm]
  have hplain := plain_of_not_control hcontrol
  have hfirst : ∀ c tail, cs ++ '\'' :: '\'' :: '\'' :: rest = c :: tail →
      c ≠ '\r' ∧ (c = '\n' → '\n' ∈ cs) := by
    intro c tail h
    cases cs with
    | nil =>
      obtain rfl := (List.cons.inj h).1
      exact ⟨by decide, nofun⟩
    | cons d cs =>
      obtain rfl := (List.cons.inj h).1
      refine ⟨?_, fun hbreak => hbreak ▸ List.mem_cons_self⟩
      rintro rfl
      exact absurd (hplain _ List.mem_cons_self) (by decide)
  rw [hwritten, string?, afterFirstBreak_opening hfirst,
    multilineLiteral_append (hrest.ne_cons (by decide)) hplain hrow]
  simp

/-- **A written text is read back**, in whichever form it was written. -/
theorem string?_writeString (s : String) :
    string? ((writeString s).toList ++ rest) = some (s, rest) := by
  have hform :
      ∀ cs, string? (writeForm cs (formOf cs) ++ rest) = some (String.ofList cs, rest) := by
    intro cs
    fun_cases formOf cs with
    | case1 => exact string?_basic hrest cs
    | case2 control broken hbasic hliteral =>
      have hne : cs ≠ [] := by
        rintro rfl
        exact hbasic rfl
      simp only [control, broken, Bool.and_eq_true, Bool.not_eq_true', List.contains_eq_mem,
        decide_eq_false_iff_not]
        at hliteral
      exact string?_literal hliteral.1.1 hliteral.1.2 hliteral.2 hne rest
    | case3 => exact string?_multilineBasic hrest cs
    | case4 control broken _ _ _ hliteral =>
      simp only [control, Bool.and_eq_true, Bool.not_eq_true', decide_eq_true_eq] at hliteral
      exact string?_multilineLiteral hrest hliteral.1 hliteral.2
    | case5 => exact string?_multilineBasic hrest cs
    | case6 => exact string?_basic hrest cs
  rw [writeString, String.toList_ofList, hform, String.ofList_toList]

end

/-! ## Values -/

theorem value?_writeFlag (depth : Nat) (b : Bool) (rest : List Char) :
    value? depth ((writeFlag b).toList ++ rest) = some (.bool b, rest) := by
  cases b <;> cases depth <;> rfl

/-- A written text begins with a quote of either kind. -/
theorem exists_writeString (s : String) :
    ∃ q tail, (q = '"' ∨ q = '\'') ∧ (writeString s).toList = q :: tail := by
  rw [writeString, String.toList_ofList]
  cases formOf s.toList with
  | basic => exact ⟨_, _, .inl rfl, rfl⟩
  | literal => exact ⟨_, _, .inr rfl, rfl⟩
  | multilineBasic => exact ⟨_, _, .inl rfl, rfl⟩
  | multilineLiteral => exact ⟨_, _, .inr rfl, rfl⟩

theorem value?_writeString {rest : List Char} (hrest : Delimited rest) (depth : Nat) (s : String) :
    value? depth ((writeString s).toList ++ rest) = some (.str s, rest) := by
  have hread := string?_writeString hrest s
  obtain ⟨q, tail, hq, hs⟩ := exists_writeString s
  rw [hs, List.cons_append] at hread ⊢
  rcases hq with rfl | rfl <;> cases depth <;> simp [value?, hread]

theorem skipTrivia_writeString (s : String) (rest : List Char) :
    skipTrivia false ((writeString s).toList ++ rest) = some ((writeString s).toList ++ rest) := by
  obtain ⟨q, tail, hq, hs⟩ := exists_writeString s
  rw [hs, List.cons_append]
  rcases hq with rfl | rfl <;> simp [skipTrivia, isBlank]

section

variable {depth fuel : Nat} {done : List Datum} {cs rest : List Char} {s : String}

/-- An element with a comma after it is added to those read, and the next one is
read. -/
theorem arrayItems_of_comma
    (hskip : skipTrivia false cs = some ((writeString s).toList ++ ',' :: rest)) :
    arrayItems (value? depth) (fuel + 1) done cs =
      arrayItems (value? depth) fuel (.str s :: done) rest := by
  have hcomma : Delimited (',' :: rest) := by simp [Delimited]
  have hread := value?_writeString hcomma depth s
  obtain ⟨q, tail, hq, hs⟩ := exists_writeString s
  rw [hs, List.cons_append] at hskip hread
  rw [arrayItems, hskip]
  rcases hq with rfl | rfl <;> simp [hread, skipTrivia, isBlank]

/-- An element with the closing bracket after it is the last one. -/
theorem arrayItems_of_bracket
    (hskip : skipTrivia false cs = some ((writeString s).toList ++ ']' :: rest)) :
    arrayItems (value? depth) (fuel + 1) done cs = some ((.str s :: done).reverse, rest) := by
  have hbracket : Delimited (']' :: rest) := by simp [Delimited]
  have hread := value?_writeString hbracket depth s
  obtain ⟨q, tail, hq, hs⟩ := exists_writeString s
  rw [hs, List.cons_append] at hskip hread
  rw [arrayItems, hskip]
  rcases hq with rfl | rfl <;> simp [hread, skipTrivia, isBlank]

end

/-- The elements of a sequence after its opening bracket, one on a line. -/
def elementLines : List String → List Char
  | [] => ['\n']
  | s :: rest =>
    '\n' :: ' ' :: ' ' :: ' ' :: ' ' :: ((writeString s).toList ++ ',' :: elementLines rest)

/-- **The items of a list are read back one by one**, each from its own line; fuel for
one more than there are is enough. -/
theorem arrayItems_elementLines (depth : Nat) (items : List String) (done : List Datum)
    (rest : List Char) {fuel : Nat} (hfuel : items.length < fuel) :
    arrayItems (value? depth) fuel done (elementLines items ++ ']' :: rest) =
      some (done.reverse ++ items.map .str, rest) := by
  obtain ⟨fuel, rfl⟩ := Nat.exists_eq_add_one_of_ne_zero (Nat.ne_zero_of_lt hfuel)
  induction items generalizing done fuel with
  | nil => simp [elementLines, arrayItems, skipTrivia, isBlank]
  | cons s items ih =>
    obtain ⟨fuel, rfl⟩ :=
      Nat.exists_eq_add_one_of_ne_zero (Nat.ne_zero_of_lt (Nat.lt_of_succ_lt_succ hfuel))
    have hskip : skipTrivia false (elementLines (s :: items) ++ ']' :: rest) =
        some ((writeString s).toList ++ ',' :: (elementLines items ++ ']' :: rest)) := by
      have htext := skipTrivia_writeString s (',' :: (elementLines items ++ ']' :: rest))
      simpa [elementLines, skipTrivia, isBlank] using htext
    rw [arrayItems_of_comma hskip, ih _ _ (Nat.lt_of_succ_lt_succ hfuel)]
    simp

/-- A list of two or more has each item on its own line. -/
theorem toList_writeStrings (s t : String) (items : List String) :
    (writeStrings (s :: t :: items)).toList = '[' :: (elementLines (s :: t :: items) ++ [']']) := by
  have hlines : ∀ items : List String,
      '\n' :: (items.map fun s => "    " ++ writeString s ++ ",\n").flatMap String.toList =
        elementLines items := by
    intro items
    induction items with
    | nil => rfl
    | cons s items ih =>
      rw [elementLines, ← ih]
      simp
  rw [writeStrings, ← hlines]
  · simp
  · nofun
  · nofun

theorem length_le_elementLines (items : List String) :
    items.length < (elementLines items).length := by
  induction items with
  | nil => exact Nat.zero_lt_one
  | cons s items ih =>
    simp only [elementLines, List.length_cons, List.length_append]
    omega

/-- **A written sequence of texts** is read back. -/
theorem value?_writeStrings {rest : List Char} (depth : Nat) (items : List String) :
    value? (depth + 1) ((writeStrings items).toList ++ rest) =
      some (.list (items.map .str), rest) := by
  match items with
  | [] => simp [writeStrings, value?, arrayItems, skipTrivia, isBlank]
  | [s] =>
    have hwritten :
        (writeStrings [s]).toList ++ rest = '[' :: ((writeString s).toList ++ ']' :: rest) := by
      simp [writeStrings]
    rw [hwritten, value?, arrayItems_of_bracket (skipTrivia_writeString s _)]
    rfl
  | s :: t :: items =>
    have hfuel :
        (s :: t :: items).length < (elementLines (s :: t :: items) ++ ']' :: rest).length + 1 := by
      have := length_le_elementLines (s :: t :: items)
      rw [List.length_append]
      omega
    have hwritten : (writeStrings (s :: t :: items)).toList ++ rest =
        '[' :: (elementLines (s :: t :: items) ++ ']' :: rest) := by
      simp [toList_writeStrings]
    rw [hwritten, value?, arrayItems_elementLines depth _ [] rest hfuel]
    rfl

/-! ## Numbers -/

/-- A number that is not zero has no zero at its front. -/
theorem toDigits_append_ne {n : Nat} (hn : n ≠ 0) (rest tail : List Char) :
    Nat.toDigits 10 n ++ rest ≠ '0' :: tail := by
  induction n using Nat.strongRecOn generalizing rest with
  | ind n ih =>
    by_cases hlt : n < 10
    · have hdigit : ∀ n < 10, n ≠ 0 → n.digitChar ≠ '0' := by decide
      rw [Nat.toDigits_of_lt_base hlt]
      exact fun h => hdigit n hlt hn (List.cons.inj h).1
    · rw [Nat.toDigits_of_base_le (by decide) (by omega), List.append_assoc]
      exact ih (n / 10) (by omega) (by omega) _

/-- Digits are read up to the end of the line. -/
theorem digits?_append {ds : List Char} (hdigits : ∀ c ∈ ds, c.isDigit = true) (hne : ds ≠ [])
    (rest : List Char) :
    digits? Char.isDigit (ds ++ '\n' :: rest) = some (ds, '\n' :: rest) := by
  induction ds with
  | nil => exact absurd rfl hne
  | cons c ds ih =>
    obtain ⟨hc, hdigits⟩ := List.forall_mem_cons.1 hdigits
    cases ds with
    | nil => simp [digits?, hc]
    | cons d ds =>
      have hd : d.isDigit = true := hdigits d List.mem_cons_self
      have hnext := ih hdigits nofun
      rw [List.cons_append] at hnext
      rw [List.cons_append, List.cons_append, digits?, if_pos hc]
      · simp [hd, hnext]
      · rintro _ _ rfl
        exact absurd hd (by decide)

/-- Where digits end with a line, no other character comes after digits. -/
theorem digits_ne {ds : List Char} {x : Char} (hdigits : ∀ c ∈ ds, c.isDigit = true)
    (front : List Char) (hfront : ∀ c ∈ front, c.isDigit = true) (hx : x.isDigit = false ∧ x ≠ '\n')
    (rest tail : List Char) :
    ds ++ '\n' :: rest ≠ front ++ x :: tail := by
  intro h
  have hdrop := congrArg (List.dropWhile Char.isDigit) h
  rw [List.dropWhile_append_of_pos hdigits, List.dropWhile_append_of_pos hfront] at hdrop
  simp [hx.1] at hdrop
  exact hx.2 hdrop.1.symm

section

variable {ds : List Char} (hdigits : ∀ c ∈ ds, c.isDigit = true) (rest : List Char)

include hdigits

/-- Digits up to the end of a line are no date and no time. -/
theorem date?_digits : date? (ds ++ '\n' :: rest) = none := by
  have htime : looksLikeTime (ds ++ '\n' :: rest) = false := by
    rw [looksLikeTime.eq_def]
    split
    · next a b tail h =>
      rw [twoDigits?]
      split
      · next hab =>
        rw [Bool.and_eq_true] at hab
        exact absurd h (digits_ne hdigits [a, b] (by simpa using hab) (by decide) rest tail)
      · rfl
    · rfl
  rw [date?.eq_def]
  split
  · next a b c d tail h =>
    refine if_neg fun hall => ?_
    exact absurd h (digits_ne hdigits [a, b, c, d] (List.all_eq_true.1 hall) (by decide) rest tail)
  · rw [htime]
    rfl

theorem number?_digits : number? (ds ++ '\n' :: rest) = decimal? false (ds ++ '\n' :: rest) := by
  have hother : ∀ x tail, x.isDigit = false ∧ x ≠ '\n' → ds ++ '\n' :: rest ≠ x :: tail :=
    fun x tail hx => digits_ne hdigits [] (by simp) hx rest tail
  have hbase : ∀ x tail, x.isDigit = false ∧ x ≠ '\n' → ds ++ '\n' :: rest ≠ '0' :: x :: tail :=
    fun x tail hx => digits_ne hdigits ['0'] (by simp) hx rest tail
  simp only [number?, date?_digits hdigits]
  split
  · next h => exact absurd h (hbase _ _ (by decide))
  · next h => exact absurd h (hbase _ _ (by decide))
  · next h => exact absurd h (hbase _ _ (by decide))
  · next h => exact absurd h (hother _ _ (by decide))
  · next h => exact absurd h (hother _ _ (by decide))
  · rfl

end

/-- **A written number** is read back. -/
theorem value?_toString {n : Nat} (hn : n < signedBound) (depth : Nat) (rest : List Char) :
    value? depth ((toString n).toList ++ '\n' :: rest) = some (.int n, '\n' :: rest) := by
  have hdigits : ∀ c ∈ Nat.toDigits 10 n, c.isDigit = true :=
    fun c hc => Nat.isDigit_of_mem_toDigits (by decide) (by decide) hc
  have hwritten : (toString n).toList = Nat.toDigits 10 n := by simp
  have hwhole : wholeDigits? (Nat.toDigits 10 n ++ '\n' :: rest) =
      some (Nat.toDigits 10 n, '\n' :: rest) := by
    by_cases hzero : n = 0
    · rw [hzero]
      rfl
    · rw [wholeDigits?]
      · exact digits?_append hdigits Nat.toDigits_ne_nil rest
      · exact toDigits_append_ne hzero _
  have hother :
      ∀ x tail, x.isDigit = false ∧ x ≠ '\n' → Nat.toDigits 10 n ++ '\n' :: rest ≠ x :: tail :=
    fun x tail hx => digits_ne hdigits [] (by simp) hx rest tail
  have hdecimal : decimal? false (Nat.toDigits 10 n ++ '\n' :: rest) =
      some (.int n, '\n' :: rest) := by
    have hvalue : decimalNumber (Nat.toDigits 10 n) = n :=
      Nat.ofDigitChars_toDigits (by decide) (by decide)
    simp [decimal?, hwhole, fraction?, exponent?, hvalue, hn]
  rw [hwritten, ← hdecimal, ← number?_digits hdigits, value?.eq_def]
  dsimp only
  split
  case h_9 => rfl
  all_goals next h => exact absurd h (hother _ _ (by decide))

end ImportOrder.Toml
