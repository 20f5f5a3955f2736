import OpcodeTables.Proofs.Code.Lexing

/-!
# Where strings end

Strings and characters have an end of their own.  What is read of one is read
also where another text follows.  The string literal for a text is read whole,
whatever characters the text has.
-/

namespace OpcodeTables.Code

/-- A reader takes a text from the front of whatever it begins. -/
def Takes (read : List Char → Option (List Char)) (taken : List Char) : Prop :=
  ∀ after, read (taken ++ after) = some after

theorem exists_afterCode? {count value : Nat} {text after : List Char} {c : Char}
    (read : afterCode? count value text = some (c, after)) :
    ∃ taken, text = taken ++ after ∧
      ∀ next, afterCode? count value (taken ++ next) = some (c, next) := by
  fun_induction afterCode? count value text with
  | case1 => contradiction
  | case2 count value first rest closes =>
      obtain ⟨code, found, same⟩ := Option.map_eq_some_iff.mp read
      cases same
      refine ⟨[first], rfl, fun next => ?_⟩
      rw [List.singleton_append, afterCode?, if_pos closes, found]
      rfl
  | case3 count value first rest open_ gap ih =>
      obtain ⟨taken, rfl, takes⟩ := ih read
      refine ⟨first :: taken, rfl, fun next => ?_⟩
      rw [List.cons_append, afterCode?, if_neg open_, if_pos gap]
      exact takes next
  | case4 count value first rest open_ gap digit found small ih =>
      obtain ⟨taken, rfl, takes⟩ := ih read
      refine ⟨first :: taken, rfl, fun next => ?_⟩
      rw [List.cons_append, afterCode?, if_neg open_, if_neg gap, found]
      simp only [if_pos small]
      exact takes next
  | case5 => contradiction
  | case6 => contradiction

theorem exists_afterEscape? {kind : StringKind} {text after : List Char}
    (read : afterEscape? kind text = some after) :
    ∃ first taken, text = first :: taken ++ after ∧ first ≠ '\n' ∧ first ≠ '\r' ∧
      Takes (afterEscape? kind) (first :: taken) := by
  unfold afterEscape? at read
  split at read
  · next high low rest =>
      split at read
      · next upper lower first second =>
          split at read
          · next allowed =>
              obtain rfl := Option.some.inj read
              refine ⟨'x', [high, low], rfl, by decide, by decide, fun next => ?_⟩
              simp [afterEscape?, first, second, allowed]
          · contradiction
      · contradiction
  · split at read
    · next c rest found =>
        obtain ⟨taken, rfl, takes⟩ := exists_afterCode? found
        split at read
        · next allowed =>
            obtain rfl := Option.some.inj read
            refine ⟨'u', '\x7b' :: taken, rfl, by decide, by decide, fun next => ?_⟩
            simp [afterEscape?, takes, allowed]
        · contradiction
    · contradiction
  · next letter rest _ _ =>
      split at read
      · next allowed =>
          obtain rfl := Option.some.inj read
          have other (c : Char) (outside : kind.allowsLetter c = false) : letter ≠ c := by
            rintro rfl
            simp [allowed] at outside
          refine ⟨letter, [], rfl, other _ ?_, other _ ?_, fun next => ?_⟩
          · cases kind <;> rfl
          · cases kind <;> rfl
          · have hexadecimal : letter ≠ 'x' := other _ (by cases kind <;> rfl)
            have numbered : letter ≠ 'u' := other _ (by cases kind <;> rfl)
            rw [List.singleton_append, afterEscape?]
            · rw [if_pos allowed]
            · simp [hexadecimal]
            · simp [numbered]
      · contradiction
  · contradiction

/-- What a line break takes away ends before a character that stays. -/
theorem exists_afterLineBreak? {text after : List Char} (read : afterLineBreak? text = some after) :
    ∃ taken next more, text = taken ++ next :: more ∧ after = next :: more ∧
      ∀ other, afterLineBreak? (taken ++ next :: other) = some (next :: other) := by
  fun_induction afterLineBreak? text with
  | case1 => contradiction
  | case2 rest ih =>
      obtain ⟨taken, next, more, rfl, same, takes⟩ := ih read
      exact ⟨'\r' :: '\n' :: taken, next, more, rfl, same, takes⟩
  | case3 => contradiction
  | case4 c rest _ _ blank ih =>
      obtain ⟨taken, next, more, rfl, same, takes⟩ := ih read
      refine ⟨c :: taken, next, more, rfl, same, fun other => ?_⟩
      rw [List.cons_append, afterLineBreak?, if_pos blank]
      · exact takes other
      all_goals rcases blank with rfl | rfl | rfl <;> simp
  | case5 c rest noLine noReturn solid =>
      obtain rfl := Option.some.inj read
      refine ⟨[], c, rest, rfl, rfl, fun other => ?_⟩
      rw [List.nil_append, afterLineBreak?, if_neg solid]
      · exact fun _ same => absurd same noReturn
      · exact noReturn

/-- What a line break takes away inside a string. -/
theorem exists_lineBreak {kind : StringKind} {c first : Char} {rest middle : List Char}
    (line : c = '\n' ∨ c = '\r') (read : afterLineBreak? (c :: rest) = some (first :: middle))
    (shorter : (first :: middle).length < (c :: rest).length) :
    ∃ gone, c :: rest = gone ++ first :: middle ∧ ∀ other,
      afterQuoted? kind ('\\' :: gone ++ first :: other) = afterQuoted? kind (first :: other) := by
  obtain ⟨gone, next, more, chars, same, breaks⟩ := exists_afterLineBreak? read
  cases same
  refine ⟨gone, chars, fun other => ?_⟩
  cases gone with
  | nil => simp [chars] at shorter
  | cons head gone =>
      obtain rfl : c = head := (List.cons.inj chars).1
      have read := breaks other
      have less : (first :: other).length < (c :: gone ++ first :: other).length := by
        simp only [List.length_append, List.length_cons]
        omega
      simp only [List.cons_append] at read less ⊢
      rcases line with rfl | rfl <;> simp only [afterQuoted?, read, if_pos less]

/-- An escape inside a string. -/
theorem exists_escape {kind : StringKind} {rest middle : List Char}
    (read : afterEscape? kind rest = some middle) :
    ∃ gone, rest = gone ++ middle ∧ ∀ other,
      afterQuoted? kind ('\\' :: gone ++ other) = afterQuoted? kind other := by
  obtain ⟨first, taken, rfl, line, lone, takes⟩ := exists_afterEscape? read
  refine ⟨first :: taken, rfl, fun other => ?_⟩
  have read := takes other
  have less : other.length < (first :: taken ++ other).length := by
    simp only [List.length_append, List.length_cons]
    omega
  simp only [List.cons_append] at read less ⊢
  rw [afterQuoted?]
  · simp only [read, if_pos less]
  · exact fun _ same => line (List.cons.inj same).1
  · exact fun _ same => lone (List.cons.inj same).1

/-- The inside of a string ends at its closing quote, whatever follows. -/
theorem exists_afterQuoted? {kind : StringKind} {text after : List Char}
    (read : afterQuoted? kind text = some after) :
    ∃ first taken, text = first :: taken ++ after ∧ Takes (afterQuoted? kind) (first :: taken) := by
  fun_induction afterQuoted? kind text with
  | case1 => contradiction
  | case2 rest =>
      obtain rfl := Option.some.inj read
      exact ⟨'"', [], rfl, fun next => by rw [List.singleton_append, afterQuoted?]⟩
  | case3 rest ih =>
      obtain ⟨first, taken, rfl, takes⟩ := ih read
      refine ⟨'\r', '\n' :: first :: taken, rfl, fun next => ?_⟩
      simp only [List.cons_append, afterQuoted?]
      exact takes next
  | case4 => contradiction
  | case5 rest escaped middle found shorter ih =>
      obtain ⟨first, taken, rfl, takes⟩ := ih read
      obtain ⟨gone, rfl, skips⟩ : ∃ gone, rest = gone ++ (first :: taken ++ after) ∧ ∀ other,
          afterQuoted? kind ('\\' :: gone ++ first :: other) = afterQuoted? kind (first :: other) := by
        dsimp only [escaped] at found
        split at found
        · exact exists_lineBreak (.inl rfl) found shorter
        · exact exists_lineBreak (.inr rfl) found shorter
        · obtain ⟨gone, same, skips⟩ := exists_escape found
          exact ⟨gone, same, fun other => skips _⟩
      refine ⟨'\\', gone ++ first :: taken, by simp, fun next => ?_⟩
      have same := skips (taken ++ next)
      simp only [List.cons_append, List.append_assoc] at same ⊢
      rw [same]
      exact takes next
  | case6 => contradiction
  | case7 => contradiction
  | case8 c rest quote line lone escape allowed ih =>
      obtain ⟨first, taken, rfl, takes⟩ := ih read
      refine ⟨c, first :: taken, rfl, fun next => ?_⟩
      rw [List.cons_append, afterQuoted?]
      · rw [if_pos allowed]
        exact takes next
      · exact quote
      · exact fun _ same => absurd same lone
      · exact lone
      · exact escape
  | case9 => contradiction

/-! ### Raw strings -/

theorem exists_afterRawQuoted? {kind : StringKind} {hashes : Nat} {text after : List Char}
    (read : afterRawQuoted? kind hashes text = some after) :
    ∃ taken, text = taken ++ after ∧ hashes < taken.length ∧
      Takes (afterRawQuoted? kind hashes) taken := by
  fun_induction afterRawQuoted? kind hashes text with
  | case1 => contradiction
  | case2 rest fenced =>
      obtain rfl := Option.some.inj read
      refine ⟨'"' :: List.replicate hashes '#', ?_, by simp, fun next => ?_⟩
      · rw [← fenced, List.cons_append, List.take_append_drop]
      · rw [List.cons_append, afterRawQuoted?, List.take_left' (by simp), if_pos rfl,
          List.drop_left' (by simp)]
  | case3 rest open_ ih =>
      obtain ⟨taken, rfl, long, takes⟩ := ih read
      refine ⟨'"' :: taken, rfl, by simp; omega, fun next => ?_⟩
      rw [List.take_append_of_le_length (by omega)] at open_
      rw [List.cons_append, afterRawQuoted?, List.take_append_of_le_length (by omega), if_neg open_]
      exact takes next
  | case4 rest ih =>
      obtain ⟨taken, rfl, long, takes⟩ := ih read
      refine ⟨'\r' :: '\n' :: taken, rfl, by simp; omega, fun next => ?_⟩
      rw [List.cons_append, List.cons_append, afterRawQuoted?]
      exact takes next
  | case5 => contradiction
  | case6 c rest quote line lone allowed ih =>
      obtain ⟨taken, rfl, long, takes⟩ := ih read
      refine ⟨c :: taken, rfl, by simp; omega, fun next => ?_⟩
      rw [List.cons_append, afterRawQuoted?]
      · rw [if_pos allowed]
        exact takes next
      · exact quote
      · exact fun _ same => absurd same lone
      · exact lone
  | case7 => contradiction

/-- A raw string ends at its closing quote, whatever follows. -/
theorem exists_afterRaw? {kind : StringKind} {text after : List Char}
    (read : afterRaw? kind text = some after) :
    ∃ taken, text = taken ++ after ∧ Takes (afterRaw? kind) taken := by
  simp only [afterRaw?, drop_length_takeWhile] at read
  split at read
  · next rest opens =>
      split at read
      · next few =>
          obtain ⟨taken, rfl, -, takes⟩ := exists_afterRawQuoted? read
          have fence : text.takeWhile (· == '#') ++ '"' :: (taken ++ after) = text := by
            rw [← opens, List.takeWhile_append_dropWhile]
          have hashes : ∀ c ∈ text.takeWhile (· == '#'), (c == '#') = true :=
            List.all_eq_true.mp List.all_takeWhile
          refine ⟨text.takeWhile (· == '#') ++ '"' :: taken, by simp [fence], fun next => ?_⟩
          simp only [afterRaw?, drop_length_takeWhile]
          simp only [List.append_assoc, List.cons_append, List.takeWhile_append_of_pos hashes,
            List.dropWhile_append_of_pos hashes]
          simp [few, takes next]
      · contradiction
  · contradiction

/-- A character literal ends at its closing quote, whatever follows. -/
theorem exists_afterCharacter? {kind : StringKind} {text after : List Char}
    (read : afterCharacter? kind text = some after) :
    ∃ taken, text = taken ++ after ∧ Takes (afterCharacter? kind) taken := by
  unfold afterCharacter? at read
  dsimp only at read
  split at read
  · next rest inside =>
      obtain rfl := Option.some.inj read
      split at inside
      · obtain ⟨first, taken, rfl, -, -, takes⟩ := exists_afterEscape? inside
        refine ⟨'\\' :: first :: taken ++ ['\''], by simp, fun next => ?_⟩
        have read := takes ('\'' :: next)
        simp only [List.cons_append] at read
        simp [afterCharacter?, read]
      · next c rest _ =>
          split at inside
          · next allowed =>
              obtain rfl := Option.some.inj inside
              refine ⟨[c, '\''], rfl, fun next => ?_⟩
              simp [afterCharacter?, allowed]
          · contradiction
      · contradiction
  · contradiction

/-! ### Texts written as strings -/

section Hexadecimal

variable {number : Nat} {rest : List Char}

theorem afterCode?_digitChar {count value digit : Nat} (base : digit < 16) (few : count < 6) :
    afterCode? count value (Nat.digitChar digit :: rest) =
      afterCode? (count + 1) (value * 16 + digit) rest := by
  have facts : ∀ digit < 16, Nat.digitChar digit ≠ '\x7d' ∧ Nat.digitChar digit ≠ '_' ∧
      Text.digitValue? 16 (Nat.digitChar digit) = some digit := by decide
  obtain ⟨closing, gap, found⟩ := facts digit base
  simp [afterCode?, closing, gap, found, few]

/-- The hexadecimal digits of a number are read as that number. -/
theorem afterCode?_toDigits (short : (Nat.toDigits 16 number).length ≤ 6) :
    afterCode? 0 0 (Nat.toDigits 16 number ++ rest) =
      afterCode? (Nat.toDigits 16 number).length number rest := by
  induction number using Nat.strongRecOn generalizing rest with
  | ind number ih =>
      by_cases small : number < 16
      · rw [Nat.toDigits_of_lt_base small, List.singleton_append,
          afterCode?_digitChar small (by decide), Nat.zero_mul, Nat.zero_add, Nat.zero_add,
          List.length_singleton]
      · have digits := @Nat.toDigits_of_base_le 16 number (by decide) (by omega)
        have length : (Nat.toDigits 16 (number / 16)).length < 6 := by
          rw [digits, List.length_append] at short
          exact short
        rw [digits, List.append_assoc, ih (number / 16) (by omega) (Nat.le_of_lt length),
          List.singleton_append, afterCode?_digitChar (Nat.mod_lt _ (by decide)) length,
          Nat.div_add_mod', List.length_append]
        rfl

/-- An escape of a character by its number is read. -/
theorem afterEscape?_code (c : Char) :
    afterEscape? .text ('u' :: '\x7b' :: Nat.toDigits 16 c.toNat ++ '\x7d' :: rest) = some rest := by
  have short : (Nat.toDigits 16 c.toNat).length ≤ 6 := by
    rw [Nat.length_toDigits_le_iff (by decide) (by decide)]
    have valid : c.toNat < 0xD800 ∨ 0xDFFF < c.toNat ∧ c.toNat < 0x110000 := c.valid
    omega
  have some : 0 < (Nat.toDigits 16 c.toNat).length := Nat.length_toDigits_pos
  rw [List.cons_append, List.cons_append, afterEscape?, afterCode?_toDigits short, afterCode?,
    if_pos ⟨rfl, some⟩, Text.charOfCode?_toNat]
  rfl

end Hexadecimal

section Escapes

variable {escape rest : List Char}

theorem afterQuoted?_escape {kind : StringKind}
    (read : afterEscape? kind (escape ++ rest) = some rest) :
    afterQuoted? kind ('\\' :: escape ++ rest) = afterQuoted? kind rest := by
  obtain ⟨gone, same, skips⟩ := exists_escape read
  rw [List.append_cancel_right same]
  exact skips rest

/-- A character is read back however it is escaped. -/
theorem afterQuoted?_escapeChar (c : Char) :
    afterQuoted? .text (Text.escapeChar c ++ rest) = afterQuoted? .text rest := by
  unfold Text.escapeChar
  split
  · exact @afterQuoted?_escape ['0'] rest .text rfl
  · exact @afterQuoted?_escape ['t'] rest .text rfl
  · exact @afterQuoted?_escape ['n'] rest .text rfl
  · exact @afterQuoted?_escape ['r'] rest .text rfl
  · exact @afterQuoted?_escape ['"'] rest .text rfl
  · exact @afterQuoted?_escape ['\\'] rest .text rfl
  · split
    · have read := @afterEscape?_code rest c
      have skips := @afterQuoted?_escape ('u' :: '\x7b' :: Nat.toDigits 16 c.toNat ++ ['\x7d'])
      simp_all
    · rw [List.singleton_append, afterQuoted?]
      · rfl
      all_goals simp_all

theorem afterQuoted?_literalChars (text : List Char) :
    afterQuoted? .text (literalChars text ++ '"' :: rest) = some rest := by
  fun_induction literalChars text with
  | case1 => rw [List.nil_append, afterQuoted?]
  | case2 c rest ih =>
      rw [List.append_assoc]
      split
      · rw [← ih]
        exact @afterQuoted?_escape ['x', '0', '0'] _ .text rfl
      · rw [← ih]
        exact @afterQuoted?_escape ['0'] _ .text rfl
  | case3 c rest other ih => rw [List.append_assoc, afterQuoted?_escapeChar, ih]

end Escapes

end OpcodeTables.Code
