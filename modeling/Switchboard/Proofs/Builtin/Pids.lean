import Mathlib.Data.List.Forall2
import Mathlib.Data.List.Induction
import Switchboard.Builtin.Processes

/-!
# Lists of process numbers

The arguments of a command on processes are words between blanks, and each of
them has to write a number in decimal digits.  The numbers are read from left
to right; the first word that writes none is the answer.
-/

namespace Switchboard

namespace Text

/-- The pieces of a text between blanks, less the empty ones. -/
def tokens (text : String) : List String :=
  ((text.toList.splitOnP isBlank).filter (!·.isEmpty)).map String.ofList

theorem wordsFrom_eq (word text : List Char) :
    wordsFrom word text =
      ((text.splitOnP isBlank).modifyHead (word.reverse ++ ·)).filter
        (!·.isEmpty) := by
  induction text generalizing word with
  | nil => cases word <;> simp [wordsFrom]
  | cons c rest induction =>
      rw [List.splitOnP_cons_eq_if_modifyHead]
      cases blank : isBlank c with
      | true =>
          have fresh : wordsFrom [] rest =
              (rest.splitOnP isBlank).filter (!·.isEmpty) := by
            rw [induction]
            cases rest.splitOnP isBlank <;> rfl
          cases word <;> simp [wordsFrom, blank, fresh]
      | false =>
          simp [wordsFrom, blank, induction (c :: word),
            Function.comp_def]

theorem words_eq_tokens (text : String) : words text = tokens text := by
  rw [words, tokens, wordsFrom_eq]
  cases text.toList.splitOnP isBlank <;> rfl

end Text

namespace Builtin

/-- A word writes a number below two to the thirty-second: a plus sign or
nothing, any number of zeros, and the number in decimal digits. -/
def Writes (word : String) (pid : Pid) : Prop :=
  pid < UInt32.size ∧ ∃ sign zeros, (sign = [] ∨ sign = ['+']) ∧
    word.toList = sign ++ List.replicate zeros '0' ++ Nat.toDigits 10 pid

/-- The words of the arguments write these numbers, and there is one at
least. -/
structure Lists (arguments : String) (pids : List Pid) : Prop where
  writes : List.Forall₂ Writes (Text.tokens arguments) pids
  nonempty : pids ≠ []

/-- The first word of the arguments that writes no number. -/
def FirstBad (arguments word : String) : Prop :=
  ∃ before after, Text.tokens arguments = before ++ word :: after ∧
    (∀ earlier ∈ before, ∃ pid, Writes earlier pid) ∧
    ∀ pid, ¬Writes word pid

theorem foldl_eq_ofDigitChars (digits : List Char) :
    digits.foldl (fun number c => number * 10 + (c.toNat - '0'.toNat)) 0 =
      Nat.ofDigitChars 10 digits 0 := by
  rw [Nat.ofDigitChars_eq_foldl]
  simp only [Nat.mul_comm]

theorem exists_digitChar {c : Char} (digit : c.isDigit = true) :
    ∃ number, number < 10 ∧ c = number.digitChar := by
  obtain ⟨low, high⟩ := Char.isDigit_iff_toNat.mp digit
  have bounds : 48 ≤ c.toNat ∧ c.toNat ≤ 57 := ⟨low, high⟩
  have small : c.toNat - 48 < 10 := by omega
  refine ⟨c.toNat - 48, small, Char.toNat_inj.mp ?_⟩
  rw [Nat.toNat_digitChar_of_lt_ten small]
  omega

theorem exists_zeros (digits : List Char) (nonempty : digits ≠ [])
    (all : ∀ c ∈ digits, c.isDigit = true) :
    ∃ zeros, digits = List.replicate zeros '0' ++
      Nat.toDigits 10 (Nat.ofDigitChars 10 digits 0) := by
  induction digits using List.reverseRecOn with
  | nil => exact absurd rfl nonempty
  | append_singleton front last induction =>
      obtain ⟨earlier, digit⟩ := List.forall_mem_append.mp all
      obtain ⟨number, small, rfl⟩ :=
        exists_digitChar (digit last (List.mem_singleton_self _))
      have value : Nat.ofDigitChars 10 (front ++ [number.digitChar]) 0 =
          10 * Nat.ofDigitChars 10 front 0 + number := by
        rw [Nat.ofDigitChars_append,
          Nat.ofDigitChars_cons_digitChar_of_lt_ten small,
          Nat.ofDigitChars_nil]
      have written := Nat.toDigits_of_lt_base small
      rw [value]
      by_cases alone : front = []
      · subst alone
        exact ⟨0, by simp [written]⟩
      · obtain ⟨zeros, split⟩ := induction alone earlier
        generalize Nat.ofDigitChars 10 front 0 = former at split value ⊢
        rcases Nat.eq_zero_or_pos former with rfl | positive
        · refine ⟨zeros + 1, ?_⟩
          rw [split, Nat.mul_zero, Nat.zero_add, written,
            List.replicate_succ']
          rfl
        · refine ⟨zeros, ?_⟩
          rw [← Nat.toDigits_append_toDigits (by decide) positive small,
            written, ← List.append_assoc, ← split]

/-- The letters after an optional plus sign. -/
def unsigned : List Char → List Char
  | '+' :: rest => rest
  | letters => letters

theorem unsigned_of_ne {letters : List Char}
    (noSign : letters.head? ≠ some '+') : unsigned letters = letters := by
  unfold unsigned
  split
  · exact absurd rfl noSign
  · rfl

theorem exists_sign (letters : List Char) :
    ∃ sign, (sign = [] ∨ sign = ['+']) ∧
      letters = sign ++ unsigned letters := by
  by_cases signed : letters.head? = some '+'
  · obtain ⟨rest, rfl⟩ := List.head?_eq_some_iff.mp signed
    exact ⟨['+'], .inr rfl, rfl⟩
  · exact ⟨[], .inl rfl, (unsigned_of_ne signed).symm⟩

theorem parsePid?_eq_some {word : String} {pid : Pid} :
    parsePid? word = some pid ↔
      unsigned word.toList ≠ [] ∧
        (∀ c ∈ unsigned word.toList, c.isDigit = true) ∧ pid < UInt32.size ∧
        Nat.ofDigitChars 10 (unsigned word.toList) 0 = pid := by
  have read : parsePid? word =
      if (unsigned word.toList).isEmpty ||
          !(unsigned word.toList).all Char.isDigit then none
      else if Nat.ofDigitChars 10 (unsigned word.toList) 0 < UInt32.size then
        some (Nat.ofDigitChars 10 (unsigned word.toList) 0)
      else none := by
    rw [← foldl_eq_ofDigitChars]
    rfl
  rw [read]
  generalize unsigned word.toList = digits
  simp only [Bool.or_eq_true, List.isEmpty_iff, Bool.not_eq_true',
    List.all_eq_false, Option.ite_none_left_eq_some, not_or, not_exists,
    not_and, Decidable.not_not, Option.ite_none_right_eq_some,
    Option.some.injEq, and_assoc]
  constructor
  · rintro ⟨nonempty, all, small, rfl⟩
    exact ⟨nonempty, all, small, rfl⟩
  · rintro ⟨nonempty, all, small, rfl⟩
    exact ⟨nonempty, all, small, rfl⟩

theorem parsePid?_iff {word : String} {pid : Pid} :
    parsePid? word = some pid ↔ Writes word pid := by
  rw [parsePid?_eq_some]
  constructor
  · rintro ⟨nonempty, all, small, rfl⟩
    obtain ⟨sign, known, split⟩ := exists_sign word.toList
    obtain ⟨zeros, digits⟩ := exists_zeros _ nonempty all
    refine ⟨small, sign, zeros, known, ?_⟩
    rw [List.append_assoc, ← digits]
    exact split
  · rintro ⟨small, sign, zeros, known, split⟩
    have digits : ∀ c ∈ List.replicate zeros '0' ++ Nat.toDigits 10 pid,
        c.isDigit = true := by
      refine List.forall_mem_append.mpr ⟨fun c zero => ?_, fun c digit =>
        Nat.isDigit_of_mem_toDigits (by decide) (by decide) digit⟩
      rw [(List.mem_replicate.mp zero).2]
      rfl
    have same : unsigned word.toList =
        List.replicate zeros '0' ++ Nat.toDigits 10 pid := by
      rw [split, List.append_assoc]
      rcases known with rfl | rfl
      · refine unsigned_of_ne fun first => ?_
        cases digits '+' (List.mem_of_head? first)
      · rfl
    rw [same]
    refine ⟨by simp [Nat.toDigits_ne_nil], digits, small, ?_⟩
    rw [Nat.ofDigitChars_append, Nat.ofDigitChars_replicate_zero,
      Nat.mul_zero, Nat.ofDigitChars_toDigits (by decide) (by decide)]

theorem Writes.unique {word : String} {one two : Pid}
    (first : Writes word one) (second : Writes word two) : one = two :=
  Option.some.inj
    ((parsePid?_iff.mpr first).symm.trans (parsePid?_iff.mpr second))

theorem parsePid?_eq_none_iff {word : String} :
    parsePid? word = none ↔ ∀ pid, ¬Writes word pid := by
  simp only [← parsePid?_iff, Option.eq_none_iff_forall_ne_some, ne_eq]

theorem readPids_eq_ok_iff {words : List String} {pids : List Pid} :
    readPids words = .ok pids ↔ List.Forall₂ Writes words pids := by
  induction words generalizing pids with
  | nil => cases pids <;> simp [readPids]
  | cons word rest induction =>
      rw [List.forall₂_cons_left_iff, readPids]
      cases read : parsePid? word with
      | none =>
          have bad := parsePid?_eq_none_iff.mp read
          simp [bad]
      | some pid =>
          have writes := parsePid?_iff.mp read
          constructor
          · intro mapped
            cases others : readPids rest with
            | error other =>
                rw [others] at mapped
                cases mapped
            | ok later =>
                rw [others] at mapped
                cases mapped
                exact ⟨pid, later, writes, induction.mp others, rfl⟩
          · rintro ⟨other, later, otherWrites, others, rfl⟩
            rw [writes.unique otherWrites, induction.mpr others]
            rfl

/-- The first word that writes no number. -/
theorem readPids_eq_error_iff {words : List String} {word : String} :
    readPids words = .error word ↔
      ∃ before after, words = before ++ word :: after ∧
        (∀ earlier ∈ before, ∃ pid, Writes earlier pid) ∧
        ∀ pid, ¬Writes word pid := by
  induction words with
  | nil => simp [readPids]
  | cons first rest induction =>
      rw [readPids]
      cases read : parsePid? first with
      | none =>
          have bad := parsePid?_eq_none_iff.mp read
          constructor
          · intro stops
            cases stops
            exact ⟨[], rest, rfl, fun _ none => absurd none List.not_mem_nil,
              bad⟩
          · rintro ⟨before, after, split, good, _⟩
            cases before with
            | nil =>
                cases split
                rfl
            | cons other later =>
                cases split
                obtain ⟨pid, writes⟩ := good first List.mem_cons_self
                exact absurd writes (bad pid)
      | some pid =>
          have writes := parsePid?_iff.mp read
          have onward : (readPids rest).map (pid :: ·) = .error word ↔
              readPids rest = .error word := by
            cases readPids rest <;> simp [Except.map]
          refine onward.trans (induction.trans ⟨?_, ?_⟩)
          · rintro ⟨before, after, rfl, good, bad⟩
            exact ⟨first :: before, after, rfl,
              List.forall_mem_cons.mpr ⟨⟨pid, writes⟩, good⟩, bad⟩
          · rintro ⟨before, after, split, good, bad⟩
            cases before with
            | nil =>
                cases split
                exact absurd writes (bad pid)
            | cons other later =>
                cases split
                exact ⟨later, after, rfl, (List.forall_mem_cons.mp good).2,
                  bad⟩

theorem parsePids_eq_ok_iff {usage arguments : String} {pids : List Pid} :
    parsePids usage arguments = .ok pids ↔ Lists arguments pids := by
  have whole : readPids (Text.words arguments) = .ok pids ↔
      List.Forall₂ Writes (Text.tokens arguments) pids := by
    rw [readPids_eq_ok_iff, Text.words_eq_tokens]
  have lists : Lists arguments pids ↔
      readPids (Text.words arguments) = .ok pids ∧ pids ≠ [] := by
    rw [whole]
    exact ⟨fun lists => ⟨lists.writes, lists.nonempty⟩,
      fun ⟨writes, nonempty⟩ => ⟨writes, nonempty⟩⟩
  rw [lists, parsePids]
  split
  · rename_i stops
    simp [stops]
  · rename_i nothing
    simp [nothing, eq_comm]
  · rename_i others some read
    simp only [read, Except.ok.injEq]
    exact ⟨fun same => ⟨same, fun none => some (same.trans none)⟩, And.left⟩

theorem firstBad_iff {arguments word : String} :
    FirstBad arguments word ↔
      readPids (Text.words arguments) = .error word := by
  rw [readPids_eq_error_iff, Text.words_eq_tokens]
  rfl

theorem parsePids_eq_error_iff {usage arguments : String}
    {error : CommandError} :
    parsePids usage arguments = .error error ↔
      (∃ word, FirstBad arguments word ∧
        error = .refunded (Notice.invalidPid word)) ∨
      (Text.tokens arguments = [] ∧ error = .refunded usage) := by
  have nothing : Text.tokens arguments = [] ↔
      readPids (Text.words arguments) = .ok [] := by
    rw [readPids_eq_ok_iff, Text.words_eq_tokens, List.forall₂_nil_right_iff]
  simp only [firstBad_iff, nothing]
  unfold parsePids
  split
  · rename_i word stops
    simp [stops, eq_comm]
  · rename_i read
    simp [read, eq_comm]
  · rename_i others some read
    simp [read]
    exact fun none => absurd none some

end Builtin

end Switchboard
