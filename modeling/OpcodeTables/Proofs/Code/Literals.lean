import Mathlib.Data.List.TakeWhile
import OpcodeTables.Proofs.Code.Strings

/-!
# Where literals end

A literal may have a suffix, and a number has no end of its own.  What is read of
a literal is read also where another text follows, as long as that text ends it.
-/

namespace OpcodeTables.Code

/-! ### Suffixes -/

/-- A text of characters that go on with words, and of which the first begins one. -/
def IsSuffix (word : List Char) : Prop :=
  (∀ c ∈ word.head?, Text.isWordStart c = true) ∧ ∀ c ∈ word, Text.isWordPart c = true

theorem takeWhile_append_of_ends {word after : List Char} {part : Char → Bool} (ends : Ends after)
    (stops : ∀ c ∈ ending, part c = false) :
    (word ++ after).takeWhile part = word.takeWhile part := by
  rw [List.takeWhile_append]
  split
  · next whole =>
      rw [ends.takeWhile stops, List.append_nil]
      exact (List.Sublist.eq_of_length (List.takeWhile_sublist part) whole).symm
  · rfl

theorem dropWhile_append_of_ends {word after : List Char} {part : Char → Bool} (ends : Ends after)
    (stops : ∀ c ∈ ending, part c = false) :
    (word ++ after).dropWhile part = word.dropWhile part ++ after := by
  rw [List.dropWhile_append]
  split
  · next empty =>
      rw [List.isEmpty_iff.mp empty, ends.dropWhile stops, List.nil_append]
  · rfl

theorem afterSuffix_append {word after : List Char} (suffix : IsSuffix word) (ends : Ends after) :
    afterSuffix (word ++ after) = after := by
  cases word with
  | nil => exact afterSuffix_of_ends ends
  | cons first rest =>
      have start : Text.isWordStart first = true := suffix.1 first rfl
      have parts : ∀ c ∈ rest, Text.isWordPart c = true :=
        fun c member => suffix.2 c (List.mem_cons_of_mem _ member)
      simp only [List.cons_append, afterSuffix, start, if_true,
        List.dropWhile_append_of_pos parts]
      exact ends.dropWhile isWordPart_of_mem_ending

theorem exists_afterSuffix (text : List Char) :
    ∃ word, text = word ++ afterSuffix text ∧ IsSuffix word := by
  cases text with
  | nil => exact ⟨[], rfl, by simp [IsSuffix]⟩
  | cons first rest =>
      by_cases start : Text.isWordStart first = true
      · refine ⟨first :: rest.takeWhile Text.isWordPart, ?_, ?_, ?_⟩
        · simp [afterSuffix, start]
        · simpa using start
        · simpa [Text.isWordPart_of_isWordStart start] using
            List.all_eq_true.mp (List.all_takeWhile (l := rest) (p := Text.isWordPart))
      · exact ⟨[], by simp [afterSuffix, start], by simp [IsSuffix]⟩

theorem afterNumberSuffix?_append {word after : List Char} (suffix : IsSuffix word)
    (ends : Ends after) : afterNumberSuffix? (word ++ after) = some after := by
  rw [afterNumberSuffix?, afterSuffix_append suffix ends]
  cases after with
  | nil => rfl
  | cons c rest => simp [isWordPart_of_mem_ending c (ends c rfl)]

theorem exists_afterNumberSuffix? {text after : List Char}
    (read : afterNumberSuffix? text = some after) :
    ∃ word, text = word ++ after ∧ IsSuffix word := by
  rw [afterNumberSuffix?] at read
  split at read
  · contradiction
  · obtain rfl := Option.some.inj read
    exact exists_afterSuffix text

/-- What goes on with a word and does not begin one is no suffix. -/
theorem afterNumberSuffix?_word {word after : List Char}
    (parts : ∀ c ∈ word, Text.isWordPart c = true) (ends : Ends after) :
    afterNumberSuffix? (word ++ after) = none ∨ afterNumberSuffix? (word ++ after) = some after := by
  cases word with
  | nil => exact .inr (afterNumberSuffix?_append (by simp [IsSuffix]) ends)
  | cons first rest =>
      by_cases start : Text.isWordStart first = true
      · exact .inr (afterNumberSuffix?_append ⟨by simpa using start, parts⟩ ends)
      · have part : Text.isWordPart first = true := parts first (by simp)
        simp [afterNumberSuffix?, afterSuffix, start, part]

/-! ### Numbers -/

theorem isDigitOrGap_eq_false : ∀ c ∈ ending, isDigitOrGap c = false :=
  eq_false_of_all (by decide)

/-- A character that ends nothing stands in the word that is ended. -/
theorem exists_of_dropWhile {word after rest : List Char} {part : Char → Bool} {c : Char}
    (ends : Ends after) (stops : ∀ c ∈ ending, part c = false)
    (same : (word ++ after).dropWhile part = c :: rest) (other : c ∉ ending) :
    c ∈ word ∧ ∃ more, (∀ c ∈ more, c ∈ word) ∧ rest = more ++ after := by
  rw [dropWhile_append_of_ends ends stops] at same
  have within : ∀ c ∈ word.dropWhile part, c ∈ word :=
    fun c member => (List.dropWhile_sublist _).subset member
  cases left : word.dropWhile part with
  | nil =>
      rw [left, List.nil_append] at same
      exact absurd (ends c (by rw [same]; rfl)) other
  | cons first more =>
      rw [left] at same within
      obtain ⟨rfl, rfl⟩ := List.cons.inj same
      exact ⟨within first List.mem_cons_self, more,
        fun c member => within c (List.mem_cons_of_mem _ member), rfl⟩

/-- The exponent in a word, which has no sign. -/
theorem afterExponent?_append {word after : List Char}
    (parts : ∀ c ∈ word, Text.isWordPart c = true) (ends : Ends after) :
    afterExponent? (word ++ after) =
      if (word.takeWhile isDigitOrGap).any Char.isDigit then
        some (word.dropWhile isDigitOrGap ++ after)
      else none := by
  have signs : ∀ c ∈ ['+', '-'], Text.isWordPart c = false := isWordPart_eq_false (by decide)
  have unsigned {c : Char} {rest : List Char} (sign : c ∈ ['+', '-']) (other : c ∉ ending) :
      (word ++ after).dropWhile (· == '_') ≠ c :: rest := by
    intro same
    have inside := (exists_of_dropWhile ends (eq_false_of_all (by decide)) same other).1
    have foreign := signs c sign
    rw [parts c inside] at foreign
    exact Bool.noConfusion foreign
  unfold afterExponent?
  split
  · next same => exact absurd same (unsigned (by decide) (by decide))
  · next same => exact absurd same (unsigned (by decide) (by decide))
  · dsimp only
    rw [takeWhile_append_of_ends ends isDigitOrGap_eq_false,
      dropWhile_append_of_ends ends isDigitOrGap_eq_false]

/-- An exponent with a sign ends where its digits do. -/
theorem afterExponent?_signed {gaps rest : List Char} {sign : Char}
    (gap : ∀ c ∈ gaps, (c == '_') = true) (member : sign = '+' ∨ sign = '-') :
    afterExponent? (gaps ++ sign :: rest) =
      if (rest.takeWhile isDigitOrGap).any Char.isDigit then
        some (rest.dropWhile isDigitOrGap)
      else none := by
  rcases member with rfl | rfl <;> simp [afterExponent?, List.dropWhile_append_of_pos gap]

theorem exists_signed {text rest : List Char} {sign : Char} (member : sign = '+' ∨ sign = '-')
    (same : text.dropWhile (· == '_') = sign :: rest)
    (digits : (rest.takeWhile isDigitOrGap).any Char.isDigit = true) :
    ∃ taken, text = taken ++ rest.dropWhile isDigitOrGap ∧
      ∀ other, (∀ c ∈ other.head?, isDigitOrGap c = false) →
        afterExponent? (taken ++ other) = some other := by
  have gap : ∀ c ∈ text.takeWhile (· == '_'), (c == '_') = true :=
    List.all_eq_true.mp List.all_takeWhile
  have inside : ∀ c ∈ rest.takeWhile isDigitOrGap, isDigitOrGap c = true :=
    List.all_eq_true.mp List.all_takeWhile
  refine ⟨text.takeWhile (· == '_') ++ sign :: rest.takeWhile isDigitOrGap, ?_, ?_⟩
  · rw [List.append_assoc, List.cons_append, List.takeWhile_append_dropWhile, ← same,
      List.takeWhile_append_dropWhile]
  · intro other stops
    rw [List.append_assoc, List.cons_append, afterExponent?_signed gap member,
      (span_append inside stops).1, (span_append inside stops).2, if_pos digits]

/-- Digits are an exponent without a sign. -/
theorem afterExponent?_digits {digits other : List Char}
    (inside : ∀ c ∈ digits, isDigitOrGap c = true) (found : digits.any Char.isDigit = true)
    (stops : ∀ c ∈ other.head?, isDigitOrGap c = false) :
    afterExponent? (digits ++ other) = some other := by
  have unsigned {c : Char} {rest : List Char} (sign : isDigitOrGap c = false) :
      (digits ++ other).dropWhile (· == '_') ≠ c :: rest := by
    intro same
    rw [List.dropWhile_append] at same
    cases left : digits.dropWhile (· == '_') with
    | nil =>
        obtain ⟨digit, member, decimal⟩ := List.any_eq_true.mp found
        have gap : digit = '_' := by simpa using List.dropWhile_eq_nil_iff.mp left digit member
        rw [gap] at decimal
        contradiction
    | cons first more =>
        rw [left] at same
        obtain rfl : first = c := (List.cons.inj same).1
        have within : first ∈ digits :=
          (List.dropWhile_sublist _).subset (left ▸ List.mem_cons_self)
        rw [inside first within] at sign
        contradiction
  unfold afterExponent?
  split
  · next same => exact absurd same (unsigned (by decide))
  · next same => exact absurd same (unsigned (by decide))
  · dsimp only
    rw [(span_append inside stops).1, (span_append inside stops).2, if_pos found]

/-- An exponent ends where its digits do. -/
theorem exists_afterExponent? {text after : List Char} (read : afterExponent? text = some after) :
    ∃ taken, text = taken ++ after ∧ (∀ c ∈ after.head?, isDigitOrGap c = false) ∧
      ∀ other, (∀ c ∈ other.head?, isDigitOrGap c = false) →
        afterExponent? (taken ++ other) = some other := by
  unfold afterExponent? at read
  dsimp only at read
  split at read
  · next rest same =>
      split at read
      · next digits =>
          obtain rfl := Option.some.inj read
          obtain ⟨taken, chars, ends⟩ := exists_signed (.inl rfl) same digits
          exact ⟨taken, chars, head?_dropWhile, ends⟩
      · contradiction
  · next rest same =>
      split at read
      · next digits =>
          obtain rfl := Option.some.inj read
          obtain ⟨taken, chars, ends⟩ := exists_signed (.inr rfl) same digits
          exact ⟨taken, chars, head?_dropWhile, ends⟩
      · contradiction
  · split at read
    · next digits =>
        obtain rfl := Option.some.inj read
        exact ⟨text.takeWhile isDigitOrGap, List.takeWhile_append_dropWhile.symm, head?_dropWhile,
          fun other stops =>
            afterExponent?_digits (List.all_eq_true.mp List.all_takeWhile) digits stops⟩
    · contradiction

/-- What is no number with a point or an exponent may be a word after all. -/
theorem afterFraction?_word {word after : List Char}
    (parts : ∀ c ∈ word, Text.isWordPart c = true) (ends : Ends after) :
    (afterFraction? (word ++ after)).bind afterNumberSuffix? = none ∨
      (afterFraction? (word ++ after)).bind afterNumberSuffix? = some after := by
  have exponent {letter : Char} {rest : List Char}
      (same : (word ++ after).dropWhile isDigitOrGap = letter :: rest)
      (other : letter ∉ ending) : (afterExponent? rest).bind afterNumberSuffix? = none ∨
        (afterExponent? rest).bind afterNumberSuffix? = some after := by
    obtain ⟨-, more, within, rfl⟩ := exists_of_dropWhile ends isDigitOrGap_eq_false same other
    rw [afterExponent?_append (fun c member => parts c (within c member)) ends]
    split
    · refine afterNumberSuffix?_word (fun c member => parts c (within c ?_)) ends
      exact (List.dropWhile_sublist _).subset member
    · exact .inl rfl
  unfold afterFraction?
  split
  · split
    · split
      · next same =>
          have inside := (exists_of_dropWhile ends isDigitOrGap_eq_false same (by decide)).1
          have point := parts '.' inside
          rw [isWordPart_of_ascii (by decide)] at point
          exact absurd point (by decide)
      · next same => exact exponent same (by decide)
      · next same => exact exponent same (by decide)
      · exact .inl rfl
    · exact .inl rfl
  · exact .inl rfl

/-- Whether what follows a point makes it a range or the point before a member. -/
def pastPoint (text : List Char) : Bool :=
  text.head?.any fun c => c == '.' || Text.isWordStart c

theorem pastPoint_of_ends {text after other : List Char} (plain : pastPoint (text ++ after) = false)
    (ends : Ends other) : pastPoint (text ++ other) = false := by
  cases text with
  | cons first rest => exact plain
  | nil =>
      cases other with
      | nil => rfl
      | cons c rest =>
          have stops : ∀ c ∈ ending, (c == '.' || Text.isWordStart c) = false :=
            eq_false_of_all (by decide)
          exact stops c (ends c rfl)

/-- Digits in front make an exponent of what is one. -/
theorem any_takeWhile_append {text after : List Char} {part found : Char → Bool}
    (present : (text.takeWhile part).any found = true) :
    ((text ++ after).takeWhile part).any found = true := by
  rw [List.takeWhile_append]
  split
  · next whole =>
      have same : text.takeWhile part = text :=
        (List.takeWhile_sublist part).eq_of_length whole
      rw [same] at present
      rw [List.any_append, present, Bool.true_or]
  · exact present

/-- What is no exponent is none when the word ends where it did. -/
theorem afterExponent?_eq_none {word after other : List Char}
    (parts : ∀ c ∈ word, Text.isWordPart c = true) (none : afterExponent? (word ++ after) = none)
    (ends : Ends other) : afterExponent? (word ++ other) = .none := by
  rw [afterExponent?_append parts ends]
  split
  · next digits =>
      have present : ((word ++ after).takeWhile isDigitOrGap).any Char.isDigit = true :=
        any_takeWhile_append digits
      have exponent : afterExponent? ((word ++ after).takeWhile isDigitOrGap ++
          (word ++ after).dropWhile isDigitOrGap) = some _ :=
        afterExponent?_digits (List.all_eq_true.mp List.all_takeWhile) present head?_dropWhile
      rw [List.takeWhile_append_dropWhile, none] at exponent
      contradiction
  · rfl

/-- A suffix goes on with a number as it did. -/
theorem head?_suffix {word after other : List Char} {part : Char → Bool}
    (stops : ∀ c ∈ (word ++ after).head?, part c = false) (ends : Ends other)
    (clear : ∀ c ∈ ending, part c = false) : ∀ c ∈ (word ++ other).head?, part c = false := by
  cases word with
  | nil => exact ends.clear clear
  | cons first rest => exact stops

/-- A fractional number goes up to what may be its suffix, also where the text is
another one after that. -/
def FractionTo (number middle : List Char) : Prop :=
  ∀ word after other, middle = word ++ after → IsSuffix word → Ends other →
    afterFraction? (number ++ (word ++ other)) = some (word ++ other)

section Fraction

variable {first letter : Char} {digits fraction rest middle : List Char}
  (digit : first.isDigit = true) (inside : ∀ c ∈ digits, isDigitOrGap c = true)

include digit inside

theorem dropWhile_digits (stops : ∀ c ∈ rest.head?, isDigitOrGap c = false) :
    (first :: digits ++ rest).dropWhile isDigitOrGap = rest := by
  refine (span_append ?_ stops).2
  simpa [isDigitOrGap, digit] using inside

theorem afterFraction?_exponent (marks : letter = 'e' ∨ letter = 'E') :
    afterFraction? (first :: digits ++ letter :: rest) = afterExponent? rest := by
  have left : (first :: digits ++ letter :: rest).dropWhile isDigitOrGap = letter :: rest := by
    refine dropWhile_digits digit inside ?_
    rcases marks with rfl | rfl <;> simp [isDigitOrGap]
  rw [List.cons_append] at left ⊢
  rcases marks with rfl | rfl <;> simp [afterFraction?, digit, left]

theorem exists_fractionTo_exponent (marks : letter = 'e' ∨ letter = 'E')
    (read : afterExponent? rest = some middle) :
    ∃ number, digits ++ letter :: rest = number ++ middle ∧ FractionTo (first :: number) middle := by
  obtain ⟨taken, rfl, stops, ends⟩ := exists_afterExponent? read
  refine ⟨digits ++ letter :: taken, by simp, ?_⟩
  rintro word after other rfl suffix closes
  have found := ends _ (head?_suffix stops closes isDigitOrGap_eq_false)
  rw [← found, ← afterFraction?_exponent digit inside marks]
  simp

variable (fractional : ∀ c ∈ fraction, isDigitOrGap c = true)

include fractional

theorem afterFraction?_point (plain : pastPoint (fraction ++ rest) = false)
    (stops : ∀ c ∈ rest.head?, isDigitOrGap c = false)
    (other : ∀ c ∈ rest.head?, (c == 'e' || c == 'E') = false) :
    afterFraction? (first :: digits ++ '.' :: (fraction ++ rest)) = some rest := by
  have left := @dropWhile_digits first digits ('.' :: (fraction ++ rest)) digit inside
    (by simp [isDigitOrGap])
  rw [List.cons_append] at left ⊢
  rw [pastPoint] at plain
  simp only [afterFraction?, digit, left, plain, if_true, Bool.false_eq_true, if_false,
    (span_append fractional stops).2]
  split
  · exact absurd (other 'e' rfl) (by decide)
  · exact absurd (other 'E' rfl) (by decide)
  · rfl

theorem afterFraction?_pointExponent (plain : pastPoint (fraction ++ letter :: rest) = false)
    (marks : letter = 'e' ∨ letter = 'E') :
    afterFraction? (first :: digits ++ '.' :: (fraction ++ letter :: rest)) =
      some ((afterExponent? rest).getD (letter :: rest)) := by
  have left := @dropWhile_digits first digits ('.' :: (fraction ++ letter :: rest)) digit inside
    (by simp [isDigitOrGap])
  have letters : isDigitOrGap letter = false := by rcases marks with rfl | rfl <;> decide
  have stops : ∀ c ∈ (letter :: rest).head?, isDigitOrGap c = false := by simpa using letters
  rw [List.cons_append] at left ⊢
  rw [pastPoint] at plain
  have ended := (span_append fractional stops).2
  rcases marks with rfl | rfl <;>
    simp only [afterFraction?, digit, left, plain, ended, if_true, Bool.false_eq_true, if_false]

theorem exists_fractionTo_point (plain : pastPoint (fraction ++ middle) = false)
    (stops : ∀ c ∈ middle.head?, isDigitOrGap c = false)
    (other : ∀ c ∈ middle.head?, (c == 'e' || c == 'E') = false) :
    FractionTo (first :: digits ++ '.' :: fraction) middle := by
  rintro word after others rfl suffix closes
  rw [← List.append_assoc] at plain
  have plain := pastPoint_of_ends plain closes
  rw [List.append_assoc] at plain
  have read := afterFraction?_point digit inside fractional plain
    (head?_suffix stops closes isDigitOrGap_eq_false)
    (head?_suffix other closes (eq_false_of_all (by decide)))
  rw [← read]
  simp

theorem exists_fractionTo_pointExponent (plain : pastPoint (fraction ++ letter :: rest) = false)
    (marks : letter = 'e' ∨ letter = 'E')
    (read : (afterExponent? rest).getD (letter :: rest) = middle) :
    ∃ number, digits ++ '.' :: (fraction ++ letter :: rest) = number ++ middle ∧
      FractionTo (first :: number) middle := by
  have clear (more : List Char) : pastPoint (fraction ++ letter :: more) = false := by
    cases fraction <;> exact plain
  cases exponent : afterExponent? rest with
  | some ended =>
      rw [exponent, Option.getD_some] at read
      subst read
      obtain ⟨taken, rfl, stops, ends⟩ := exists_afterExponent? exponent
      refine ⟨digits ++ '.' :: (fraction ++ letter :: taken), by simp, ?_⟩
      rintro word after other rfl suffix closes
      have found := ends _ (head?_suffix stops closes isDigitOrGap_eq_false)
      have read := afterFraction?_pointExponent digit inside fractional
        (clear (taken ++ (word ++ other))) marks
      rw [found, Option.getD_some] at read
      rw [← read]
      simp
  | none =>
      rw [exponent, Option.getD_none] at read
      subst read
      refine ⟨digits ++ '.' :: fraction, by simp, ?_⟩
      intro word after other same suffix closes
      cases word with
      | nil =>
          have ended : pastPoint (fraction ++ other) = false :=
            pastPoint_of_ends plain closes
          have read := afterFraction?_point digit inside fractional ended
            (closes.clear isDigitOrGap_eq_false) (closes.clear (eq_false_of_all (by decide)))
          rw [List.nil_append, ← read]
          simp
      | cons head word =>
          obtain ⟨rfl, rfl⟩ := List.cons.inj same
          have none : afterExponent? (word ++ other) = .none :=
            afterExponent?_eq_none (fun c member => suffix.2 c (List.mem_cons_of_mem _ member))
              exponent closes
          have read := afterFraction?_pointExponent digit inside fractional (clear (word ++ other))
            marks
          rw [none, Option.getD_none] at read
          simpa using read

end Fraction

/-- A number with a point or an exponent, before its suffix. -/
theorem exists_afterFraction? {text middle : List Char} (read : afterFraction? text = some middle) :
    ∃ first number, first.isDigit = true ∧ text = first :: number ++ middle ∧
      FractionTo (first :: number) middle := by
  cases text with
  | nil => contradiction
  | cons first rest =>
      by_cases digit : first.isDigit = true
      · have part : isDigitOrGap first = true := by simp [isDigitOrGap, digit]
        have inside : ∀ c ∈ rest.takeWhile isDigitOrGap, isDigitOrGap c = true :=
          List.all_eq_true.mp List.all_takeWhile
        have span : rest = rest.takeWhile isDigitOrGap ++ (first :: rest).dropWhile isDigitOrGap := by
          rw [List.dropWhile_cons_of_pos part, List.takeWhile_append_dropWhile]
        generalize rest.takeWhile isDigitOrGap = digits at inside span
        suffices ∃ number, rest = number ++ middle ∧ FractionTo (first :: number) middle by
          obtain ⟨number, rfl, goes⟩ := this
          exact ⟨first, number, digit, rfl, goes⟩
        simp only [afterFraction?, digit, if_true] at read
        split at read
        · next tail same =>
            rw [same] at span
            subst span
            have fractional : ∀ c ∈ tail.takeWhile isDigitOrGap, isDigitOrGap c = true :=
              List.all_eq_true.mp List.all_takeWhile
            have split := List.takeWhile_append_dropWhile (p := isDigitOrGap) (l := tail)
            have stops := @head?_dropWhile tail isDigitOrGap
            generalize tail.takeWhile isDigitOrGap = fraction at fractional split
            generalize tail.dropWhile isDigitOrGap = left at split stops read
            subst split
            split at read
            · contradiction
            · next plain =>
                have plain : pastPoint (fraction ++ left) = false := by
                  simpa [pastPoint] using plain
                split at read
                · exact exists_fractionTo_pointExponent digit inside fractional plain (.inl rfl)
                    (Option.some.inj read)
                · exact exists_fractionTo_pointExponent digit inside fractional plain (.inr rfl)
                    (Option.some.inj read)
                · next lower upper =>
                    obtain rfl := Option.some.inj read
                    refine ⟨digits ++ '.' :: fraction, by simp,
                      exists_fractionTo_point digit inside fractional plain stops ?_⟩
                    intro c member
                    obtain ⟨more, rfl⟩ := List.head?_eq_some_iff.mp member
                    by_contra letter
                    rw [Bool.not_eq_false, Bool.or_eq_true, beq_iff_eq, beq_iff_eq] at letter
                    rcases letter with rfl | rfl
                    · exact lower more rfl
                    · exact upper more rfl
        · next same =>
            rw [same] at span
            subst span
            exact exists_fractionTo_exponent digit inside (.inl rfl) read
        · next same =>
            rw [same] at span
            subst span
            exact exists_fractionTo_exponent digit inside (.inr rfl) read
        · contradiction
      · simp [afterFraction?, digit] at read

/-! ### Whole numbers -/

theorem afterDigits?_of_ends {base : Nat} {after : List Char} (ends : Ends after) :
    afterDigits? base true after = some after := by
  cases after with
  | nil => rfl
  | cons c rest =>
      have plain : ∀ c ∈ ending, c ≠ '_' ∧ Text.digitValue? 16 c = none :=
        forall_of_all (by decide)
      obtain ⟨gap, value⟩ := plain c (ends c rfl)
      rw [afterDigits?, if_neg gap, value]
      rfl

theorem isWordPart_of_digitValue? {c : Char} {value : Nat}
    (digit : Text.digitValue? 16 c = some value) : Text.isWordPart c = true := by
  apply isWordPart_of_isIdentifierPart
  rw [isIdentifierPart_iff, isIdentifierStart_iff, isDigit_iff]
  simp only [Text.digitValue?, Char.reduceToNat] at digit
  obtain ⟨digit, -⟩ := Option.filter_eq_some_iff.mp digit
  grind

/-- A run of digits ends where it did, as long as what follows begins alike or ends it. -/
theorem exists_afterDigits? {base : Nat} {found : Bool} {text after : List Char}
    (read : afterDigits? base found text = some after) :
    ∃ digits, text = digits ++ after ∧ (found = false → digits ≠ []) ∧
      (∀ c ∈ digits, Text.isWordPart c = true) ∧
      ∀ other, (other.head? = after.head? ∨ Ends other) →
        afterDigits? base found (digits ++ other) = some other := by
  have empty {text : List Char} (stops : ∀ other, other.head? = text.head? →
      afterDigits? base true other = some other) (other : List Char)
      (same : other.head? = text.head? ∨ Ends other) : afterDigits? base true other = some other :=
    same.elim (stops other) afterDigits?_of_ends
  fun_induction afterDigits? base found text with
  | case1 =>
      obtain rfl := Option.some.inj read
      refine ⟨[], rfl, by simp, by simp, empty fun other same => ?_⟩
      obtain rfl : other = [] := by simpa using same
      rfl
  | case2 => contradiction
  | case3 => contradiction
  | case4 found rest allowed ih =>
      obtain ⟨digits, rfl, -, parts, ends⟩ := ih read
      refine ⟨'_' :: digits, rfl, by simp, ?_, fun other same => ?_⟩
      · rw [List.forall_mem_cons]
        exact ⟨by decide, parts⟩
      · rw [List.cons_append, afterDigits?, if_pos rfl, if_neg allowed]
        exact ends other same
  | case5 found c rest gap digit value small ih =>
      obtain ⟨digits, rfl, -, parts, ends⟩ := ih read
      refine ⟨c :: digits, rfl, by simp, ?_, fun other same => ?_⟩
      · rw [List.forall_mem_cons]
        exact ⟨isWordPart_of_digitValue? value, parts⟩
      · rw [List.cons_append, afterDigits?, if_neg gap, value]
        simp only [if_pos small]
        exact ends other same
  | case6 => contradiction
  | case7 c rest gap digit value large other =>
      obtain rfl := Option.some.inj read
      refine ⟨[], rfl, by simp, by simp, empty fun others same => ?_⟩
      obtain ⟨more, rfl⟩ := List.head?_eq_some_iff.mp same
      simp [afterDigits?, gap, value, large, other]
  | case8 => contradiction
  | case9 c rest gap value =>
      obtain rfl := Option.some.inj read
      refine ⟨[], rfl, by simp, by simp, empty fun others same => ?_⟩
      obtain ⟨more, rfl⟩ := List.head?_eq_some_iff.mp same
      simp [afterDigits?, gap, value]
  | case10 => contradiction

/-- A whole number whose base is marked, before its suffix. -/
theorem exists_based {base : Nat} {mark : Char} {rest middle : List Char}
    (part : Text.isWordPart mark = true)
    (marked : ∀ rest, afterWhole? ('0' :: mark :: rest) = afterDigits? base false rest)
    (read : afterDigits? base false rest = some middle) :
    ∃ first number, first.isDigit = true ∧ '0' :: mark :: rest = first :: number ++ middle ∧
      (∀ c ∈ number, Text.isWordPart c = true) ∧
      ∀ other, (other.head? = middle.head? ∨ Ends other) →
        afterWhole? (first :: number ++ other) = some other := by
  obtain ⟨digits, rfl, -, parts, ends⟩ := exists_afterDigits? read
  refine ⟨'0', mark :: digits, by decide, rfl, ?_, fun other same => ?_⟩
  · rw [List.forall_mem_cons]
    exact ⟨part, parts⟩
  · rw [List.cons_append, List.cons_append, marked]
    exact ends other same

/-- A whole number, before its suffix. -/
theorem exists_afterWhole? {text middle : List Char} (read : afterWhole? text = some middle) :
    ∃ first number, first.isDigit = true ∧ text = first :: number ++ middle ∧
      (∀ c ∈ number, Text.isWordPart c = true) ∧
      ∀ other, (other.head? = middle.head? ∨ Ends other) →
        afterWhole? (first :: number ++ other) = some other := by
  have whole := read
  unfold afterWhole? at read
  split at read
  · exact exists_based (by decide) (fun _ => rfl) read
  · exact exists_based (by decide) (fun _ => rfl) read
  · exact exists_based (by decide) (fun _ => rfl) read
  · next hexadecimal octal binary =>
      obtain ⟨digits, rfl, present, parts, ends⟩ := exists_afterDigits? read
      cases digits with
      | nil => exact absurd rfl (present rfl)
      | cons first number =>
          have digit : first.isDigit = true := by
            by_contra other
            rw [List.cons_append, afterWhole?_eq_none (Bool.not_eq_true _ ▸ other)] at whole
            contradiction
          refine ⟨first, number, digit, rfl, ?_, fun other same => ?_⟩
          · exact fun c member => parts c (List.mem_cons_of_mem _ member)
          · have plain {mark : Char} (outside : mark ∉ ending)
                (based : ∀ rest, first :: number ++ middle = '0' :: mark :: rest → False) :
                ∀ rest, first :: number ++ other = '0' :: mark :: rest → False := by
              intro rest chars
              cases number with
              | cons second number =>
                  obtain ⟨rfl, rest⟩ := List.cons.inj chars
                  obtain ⟨rfl, -⟩ := List.cons.inj rest
                  exact based _ rfl
              | nil =>
                  obtain ⟨rfl, rfl⟩ := List.cons.inj chars
                  rcases same with same | closes
                  · obtain ⟨more, rfl⟩ := List.head?_eq_some_iff.mp same.symm
                    exact based _ rfl
                  · exact outside (closes mark rfl)
            rw [afterWhole?]
            · exact ends other same
            · exact plain (by decide) hexadecimal
            · exact plain (by decide) octal
            · exact plain (by decide) binary

/-! ### Literals -/

/-- A string or character with its suffix ends where it did, whatever ends it. -/
theorem exists_suffixed {reader : List Char → Option (List Char)} {text after : List Char}
    (closes : ∀ {middle}, reader text = some middle →
      ∃ taken, text = taken ++ middle ∧ Takes reader taken)
    (read : (reader text).map afterSuffix = some after) :
    ∃ taken, text = taken ++ after ∧
      ∀ other, Ends other → (reader (taken ++ other)).map afterSuffix = some other := by
  obtain ⟨middle, found, rfl⟩ := Option.map_eq_some_iff.mp read
  obtain ⟨taken, rfl, takes⟩ := closes found
  obtain ⟨word, same, suffix⟩ := exists_afterSuffix middle
  refine ⟨taken ++ word, ?_, fun other ends => ?_⟩
  · rw [List.append_assoc, ← same]
  · rw [List.append_assoc, takes (word ++ other), Option.map_some, afterSuffix_append suffix ends]

/-- A number ends where it did, whatever ends it. -/
theorem exists_number {text after : List Char}
    (read : ((afterFraction? text).bind afterNumberSuffix? <|>
      (afterWhole? text).bind afterNumberSuffix?) = some after) :
    ∃ first taken, first.isDigit = true ∧ text = first :: taken ++ after ∧
      ∀ other, Ends other →
        ((afterFraction? (first :: taken ++ other)).bind afterNumberSuffix? <|>
          (afterWhole? (first :: taken ++ other)).bind afterNumberSuffix?) = some other := by
  cases fraction : (afterFraction? text).bind afterNumberSuffix? with
  | some ended =>
      obtain ⟨middle, found, suffixed⟩ := Option.bind_eq_some_iff.mp fraction
      rw [fraction] at read
      obtain rfl := Option.some.inj read
      obtain ⟨first, number, digit, rfl, goes⟩ := exists_afterFraction? found
      obtain ⟨word, rfl, suffix⟩ := exists_afterNumberSuffix? suffixed
      refine ⟨first, number ++ word, digit, by simp, fun other ends => ?_⟩
      have found : afterFraction? (first :: (number ++ word) ++ other) = some (word ++ other) := by
        simpa using goes word _ other rfl suffix ends
      rw [found, Option.bind_some, afterNumberSuffix?_append suffix ends]
      rfl
  | none =>
      rw [fraction] at read
      obtain ⟨middle, found, suffixed⟩ := Option.bind_eq_some_iff.mp read
      obtain ⟨first, number, digit, rfl, parts, goes⟩ := exists_afterWhole? found
      obtain ⟨word, rfl, suffix⟩ := exists_afterNumberSuffix? suffixed
      refine ⟨first, number ++ word, digit, by simp, fun other ends => ?_⟩
      have whole : afterWhole? (first :: number ++ (word ++ other)) = some (word ++ other) := by
        apply goes
        cases word with
        | nil => exact .inr ends
        | cons c word => exact .inl rfl
      have whole : afterWhole? (first :: (number ++ word) ++ other) = some (word ++ other) := by
        simpa using whole
      have inside : ∀ c ∈ first :: (number ++ word), Text.isWordPart c = true := by
        rw [List.forall_mem_cons, List.forall_mem_append]
        exact ⟨by simp [Text.isWordPart, digit], parts, suffix.2⟩
      rw [whole, Option.bind_some, afterNumberSuffix?_append suffix ends]
      rcases afterFraction?_word inside ends with none | some
      · rw [none]
        rfl
      · rw [some]
        rfl

/-- A literal ends where it did, whatever ends it. -/
theorem exists_afterLiteral? {text after : List Char} (read : afterLiteral? text = some after) :
    ∃ first taken, text = first :: taken ++ after ∧
      ∀ other, Ends other → afterLiteral? (first :: taken ++ other) = some other := by
  have quoted {kind : StringKind} {text middle : List Char}
      (read : afterQuoted? kind text = some middle) :
      ∃ taken, text = taken ++ middle ∧ Takes (afterQuoted? kind) taken := by
    obtain ⟨first, taken, same, takes⟩ := exists_afterQuoted? read
    exact ⟨first :: taken, same, takes⟩
  unfold afterLiteral? at read
  split at read
  · obtain ⟨taken, rfl, ends⟩ := exists_suffixed quoted read
    exact ⟨'"', taken, rfl, ends⟩
  · obtain ⟨taken, rfl, ends⟩ := exists_suffixed exists_afterRaw? read
    exact ⟨'r', taken, rfl, ends⟩
  · obtain ⟨taken, rfl, ends⟩ := exists_suffixed quoted read
    exact ⟨'b', '"' :: taken, rfl, ends⟩
  · obtain ⟨taken, rfl, ends⟩ := exists_suffixed exists_afterRaw? read
    exact ⟨'b', 'r' :: taken, rfl, ends⟩
  · obtain ⟨taken, rfl, ends⟩ := exists_suffixed exists_afterCharacter? read
    exact ⟨'b', '\'' :: taken, rfl, ends⟩
  · obtain ⟨taken, rfl, ends⟩ := exists_suffixed quoted read
    exact ⟨'c', '"' :: taken, rfl, ends⟩
  · obtain ⟨taken, rfl, ends⟩ := exists_suffixed exists_afterRaw? read
    exact ⟨'c', 'r' :: taken, rfl, ends⟩
  · obtain ⟨taken, rfl, ends⟩ := exists_suffixed exists_afterCharacter? read
    exact ⟨'\'', taken, rfl, ends⟩
  · obtain ⟨first, taken, digit, rfl, ends⟩ := exists_number read
    refine ⟨first, taken, rfl, fun other closes => ?_⟩
    rw [afterLiteral?]
    · exact ends other closes
    all_goals
      rintro rest same
      obtain ⟨rfl, -⟩ := List.cons.inj same
      exact absurd digit (by decide)

end OpcodeTables.Code
