import Gateway.Json.Reader
import Gateway.Json.Writer
import Gateway.Proofs.TextBytes
import Mathlib.Data.Nat.Digits.Lemmas
import Mathlib.Tactic.SplitIfs

/-! # Written JSON: what is read of a value that was written -/
namespace Gateway.Json
open Text

/-! ## Texts -/

/-- How a character is written: behind a backslash by a letter of its own, behind a backslash by its
number, or as it is. -/
theorem escape_cases (c : Char) :
    (∃ d, escape c = ['\\', d] ∧ d.toNat < 128 ∧ c.toNat < 128 ∧ plainEscape? d = some c) ∨
    (escape c = ['\\', 'u', '0', '0', hexDigit (c.toNat / 16), hexDigit (c.toNat % 16)] ∧
      c.toNat < 32) ∨
    (escape c = [c] ∧ 32 ≤ c.toNat ∧ c ≠ '"' ∧ c ≠ '\\') := by
  have hof : ∀ n, c.toNat = n → c = Char.ofNat n := fun n h => by rw [← h, Char.ofNat_toNat]
  unfold escape
  split_ifs with h₁ h₂ h₃ h₄ h₅ h₆ h₇ h₈
  · exact Or.inl ⟨_, rfl, by decide, by rw [h₁]; decide, by rw [h₁]; rfl⟩
  · exact Or.inl ⟨_, rfl, by decide, by rw [h₂]; decide, by rw [h₂]; rfl⟩
  · exact Or.inl ⟨_, rfl, by decide, by rw [h₃]; decide, by rw [h₃]; rfl⟩
  · exact Or.inl ⟨_, rfl, by decide, by rw [h₄]; decide, by rw [h₄]; rfl⟩
  · exact Or.inl ⟨_, rfl, by decide, by rw [h₅]; decide, by rw [h₅]; rfl⟩
  · exact Or.inl ⟨_, rfl, by decide, by omega, by rw [hof 8 h₆]; rfl⟩
  · exact Or.inl ⟨_, rfl, by decide, by omega, by rw [hof 12 h₇]; rfl⟩
  · exact Or.inr (Or.inl ⟨rfl, h₈⟩)
  · exact Or.inr (Or.inr ⟨rfl, Nat.le_of_not_lt h₈, h₁, h₂⟩)

theorem readQuoted_backslash {c d : Char} (h : plainEscape? c = some d) (seen tail : List Char) :
    readQuoted (.whole seen) ('\\' :: c :: tail) = readQuoted (.whole (d :: seen)) tail := by
  have hu : c ≠ 'u' := by
    rintro rfl
    cases h
  rw [readQuoted.eq_4 _ _ _ fun _ _ _ _ _ hc _ => hu hc]
  simp only [h, Quoted.push]

theorem readQuoted_of_plain {cs : List Char}
    (h : ∀ c ∈ cs, 32 ≤ c.toNat ∧ c ≠ '"' ∧ c ≠ '\\') (seen tail : List Char) :
    readQuoted (.whole seen) (cs ++ tail) = readQuoted (.whole (cs.reverse ++ seen)) tail := by
  induction cs generalizing seen with
  | nil => rfl
  | cons c cs ih =>
    obtain ⟨⟨hc, hquote, hslash⟩, hcs⟩ := List.forall_mem_cons.mp h
    rw [List.cons_append, readQuoted.eq_5 _ _ _ hquote (fun _ _ _ _ _ hc _ => hslash hc)
      (fun _ _ hc _ => hslash hc), if_neg (by simp [hslash, hc]), Quoted.push, ih hcs,
      List.reverse_cons, List.append_assoc, List.singleton_append]

theorem unit?_hexDigit :
    ∀ n < 32, unit? '0' '0' (hexDigit (n / 16)) (hexDigit (n % 16)) = some n := by decide

theorem hexDigit_lt : ∀ n < 16, (hexDigit n).toNat < 128 := by decide

theorem Quoted.backward_toNat (c : Char) : backward c.toNat = (spelt [c]).reverse := by
  rw [backward, byteChars_utf8, String.toList_singleton, Char.ofNat_toNat]

theorem Quoted.pushUnit_of_lt {c : Char} (h : c.toNat < 32) (seen : List Char) :
    (whole seen).pushUnit c.toNat = whole ((spelt [c]).reverse ++ seen) := by
  have hhigh : isHighSurrogate c.toNat = false := by rw [isHighSurrogate]; simp; omega
  have hlow : isLowSurrogate c.toNat = false := by rw [isLowSurrogate]; simp; omega
  rw [pushUnit, hhigh, hlow, backward_toNat]
  rfl

/-- However a character is written, its bytes are read. -/
theorem readQuoted_escape (c : Char) (seen tail : List Char) :
    readQuoted (.whole seen) (spelt (escape c) ++ tail) =
      readQuoted (.whole ((spelt [c]).reverse ++ seen)) tail := by
  rcases escape_cases c with ⟨d, hc, hd, hlt, hplain⟩ | ⟨hc, hlt⟩ | ⟨hc, hle, hquote, hslash⟩
  · rw [hc, spelt_cons (by decide), spelt_singleton hd, spelt_singleton hlt]
    exact readQuoted_backslash hplain seen tail
  · have hhex := unit?_hexDigit c.toNat hlt
    have h₁ := hexDigit_lt (c.toNat / 16) (by omega)
    have h₂ := hexDigit_lt (c.toNat % 16) (by omega)
    rw [hc, spelt_cons (by decide), spelt_cons (by decide), spelt_cons (by decide),
      spelt_cons (by decide), spelt_cons h₁, spelt_singleton h₂]
    simp only [List.cons_append, List.nil_append, readQuoted, hhex, Quoted.pushUnit_of_lt hlt]
  · rw [hc]
    refine readQuoted_of_plain (fun d hd => ?_) seen tail
    rcases Nat.lt_or_ge c.toNat 128 with hlt | hge
    · rw [spelt_singleton hlt, List.mem_singleton] at hd
      rw [hd]
      exact ⟨hle, hquote, hslash⟩
    · have hd := le_toNat_of_mem_spelt hge hd
      exact ⟨by omega, by rintro rfl; exact absurd hd (by decide),
        by rintro rfl; exact absurd hd (by decide)⟩

theorem readQuoted_flatMap_escape (cs seen tail : List Char) :
    readQuoted (.whole seen) (spelt (cs.flatMap escape) ++ tail) =
      readQuoted (.whole ((spelt cs).reverse ++ seen)) tail := by
  induction cs generalizing seen with
  | nil => rfl
  | cons c cs ih =>
    have hcons : spelt (c :: cs) = spelt [c] ++ spelt cs := spelt_append [c] cs
    rw [List.flatMap_cons, spelt_append, List.append_assoc, readQuoted_escape, ih, hcons,
      List.reverse_append, List.append_assoc]

/-- A written text is read up to its closing quote. -/
theorem readText_render (s : String) (rest : List Char) :
    readText (spelt (s.toList.flatMap escape ++ ['"']) ++ rest) = some (some s, rest) := by
  rw [readText, spelt_append, spelt_singleton (by decide), List.append_assoc,
    readQuoted_flatMap_escape, List.singleton_append, readQuoted, Quoted.text?, List.append_nil,
    List.reverse_reverse, ofUtf8?_spelt, String.ofList_toList]

/-! ## Numbers -/

theorem isDigit_iff (c : Char) : isDigit c = true ↔ 48 ≤ c.toNat ∧ c.toNat ≤ 57 := by
  rw [isDigit, Bool.and_eq_true, decide_eq_true_eq, decide_eq_true_eq]
  rfl

theorem isDigit_of_mem_toDigits {n : Nat} {c : Char} (h : c ∈ Nat.toDigits 10 n) :
    isDigit c = true := by
  have hc := Nat.isDigit_of_mem_toDigits (by decide) (by decide) h
  exact (isDigit_iff c).mpr (Char.isDigit_iff_toNat.mp hc)

theorem decimal_toDigits (n : Nat) : decimal (Nat.toDigits 10 n) = n := by
  have h := @Nat.ofDigitChars_ten_toDigits n
  simp only [Nat.ofDigitChars, Nat.mul_comm 10] at h
  exact h

theorem toDigits_eq_cons (n : Nat) : ∃ c cs, Nat.toDigits 10 n = c :: cs ∧ isDigit c = true := by
  obtain ⟨c, cs, hc⟩ := List.exists_cons_of_ne_nil (@Nat.toDigits_ne_nil n 10)
  exact ⟨c, cs, hc, isDigit_of_mem_toDigits (hc ▸ List.mem_cons_self)⟩

/-- Only zero begins with a zero. -/
theorem head?_toDigits {n : Nat} (h : 0 < n) : (Nat.toDigits 10 n).head? ≠ some '0' := by
  induction n using Nat.strongRecOn with
  | ind n ih =>
    rw [Nat.toDigits_eq_if (by decide)]
    split_ifs with hn
    · exact (by decide : ∀ k < 10, 0 < k → [k.digitChar].head? ≠ some '0') n hn h
    · rw [List.head?_append_of_ne_nil _ Nat.toDigits_ne_nil]
      exact ih (n / 10) (by omega) (by omega)

/-- What may follow a value: nothing that goes on with a number. -/
def Ends (rest : List Char) : Prop :=
  ∀ c ∈ rest.head?, isDigit c = false ∧ c ≠ '.' ∧ c ≠ 'e' ∧ c ≠ 'E'

theorem ends_nil : Ends [] := fun _ h => nomatch h

theorem ends_cons {c : Char} (h : c = ',' ∨ c = ']' ∨ c = '\x7d') (rest : List Char) :
    Ends (c :: rest) := by
  intro d hd
  cases hd
  rcases h with rfl | rfl | rfl <;> decide

theorem splitDigits_toDigits (n : Nat) {rest : List Char} (h : Ends rest) :
    splitDigits (Nat.toDigits 10 n ++ rest) = (Nat.toDigits 10 n, rest) := by
  have hdigits : ∀ c ∈ Nat.toDigits 10 n, isDigit c = true := fun _ => isDigit_of_mem_toDigits
  rw [splitDigits, List.takeWhile_append_of_pos hdigits, List.dropWhile_append_of_pos hdigits]
  cases rest with
  | nil => rw [List.takeWhile_nil, List.dropWhile_nil, List.append_nil]
  | cons c rest =>
    have hc := (h c rfl).1
    have hneg : ¬isDigit c = true := by rw [hc]; decide
    rw [List.takeWhile_cons_of_neg hneg, List.dropWhile_cons_of_neg hneg, List.append_nil]

theorem readFraction_of_ends {rest : List Char} (h : Ends rest) :
    readFraction rest = some (none, rest) := by
  rw [readFraction.eq_2]
  rintro cs rfl
  exact (h '.' rfl).2.1 rfl

theorem readExponent_of_ends {rest : List Char} (h : Ends rest) :
    readExponent rest = some (none, rest) := by
  cases rest with
  | nil => rfl
  | cons c rest =>
    obtain ⟨-, -, hlower, hupper⟩ := h c rfl
    rw [readExponent.eq_def]
    exact if_neg (by simp [hlower, hupper])

/-- Written digits, with a minus sign in front or without. -/
theorem readNumeral_toDigits (negative : Bool) (n : Nat) {rest : List Char} (h : Ends rest) :
    readNumeral (if negative then '-' :: (Nat.toDigits 10 n ++ rest)
        else Nat.toDigits 10 n ++ rest) =
      some (⟨negative, Nat.toDigits 10 n, none, none⟩, rest) := by
  have hzero : ((Nat.toDigits 10 n).isEmpty ||
      ((Nat.toDigits 10 n).head? == some '0' && decide ((Nat.toDigits 10 n).length > 1))) =
        false := by
    rcases Nat.eq_zero_or_pos n with rfl | hn
    · rfl
    · simp [Nat.toDigits_ne_nil, head?_toDigits hn]
  cases negative with
  | true =>
    rw [if_pos rfl, readNumeral.eq_1]
    simp only [splitDigits_toDigits n h, hzero, Bool.false_eq_true, if_false, Option.pure_def,
      Option.bind_eq_bind, Option.bind_some, readFraction_of_ends h, readExponent_of_ends h]
  | false =>
    have hminus : ∀ cs, Nat.toDigits 10 n ++ rest = '-' :: cs → False := by
      obtain ⟨c, cs, hc, hdigit⟩ := toDigits_eq_cons n
      intro ds hds
      rw [hc] at hds
      cases hds
      cases hdigit
    rw [if_neg Bool.false_ne_true, readNumeral.eq_2 _ hminus]
    simp only [splitDigits_toDigits n h, hzero, Bool.false_eq_true, if_false, Option.pure_def,
      Option.bind_eq_bind, Option.bind_some, readFraction_of_ends h, readExponent_of_ends h]

theorem tooLarge_toDigits (negative : Bool) (n : Nat) (h : n < 10 ^ 20) :
    (Numeral.mk negative (Nat.toDigits 10 n) none none).tooLarge = false := by
  have hlength : (Nat.toDigits 10 n).length ≤ 20 := Nat.toDigits_length 10 n 20 (by decide) h
  have hdigits : (Numeral.mk negative (Nat.toDigits 10 n) none none).digits = n := by
    rw [Numeral.digits, Option.getD_none, List.append_nil, decimal_toDigits]
  rw [Numeral.tooLarge, hdigits]
  have hsize : ((Nat.toDigits 10 n).length : Int) + (Numeral.mk negative (Nat.toDigits 10 n) none
      none).scale < 309 := by
    simp only [Numeral.scale, Option.getD_none, List.length_nil]
    omega
  simp [hsize]

/-- Whole numbers that fit into 64 bits, with a sign or without. -/
def IsWord (n : Int) : Prop := -0x8000000000000000 ≤ n ∧ n < 0x10000000000000000

theorem readNumber_renderInt {n : Int} (hn : IsWord n) {rest : List Char} (h : Ends rest) :
    readNumber (renderInt n ++ rest) = some (.int n, rest) := by
  obtain ⟨hlow, hhigh⟩ := hn
  cases n with
  | ofNat k =>
    have hk : k < 0x10000000000000000 := by
      simp only [Int.ofNat_eq_natCast] at hhigh
      omega
    have hread := readNumeral_toDigits false k h
    rw [if_neg Bool.false_ne_true] at hread
    have hsmall := tooLarge_toDigits false k (by omega)
    rw [readNumber, renderInt, hread, Option.map_some]
    simp [hsmall, Numeral.value, Numeral.isWhole, decimal_toDigits, Word.isUnsigned, hk]
  | negSucc k =>
    have hk : k + 1 ≤ 0x8000000000000000 := by omega
    have hread := readNumeral_toDigits true (k + 1) h
    rw [if_pos rfl] at hread
    have hsmall := tooLarge_toDigits true (k + 1) (by omega)
    rw [readNumber, renderInt, List.cons_append, hread, Option.map_some]
    have hword : Word.isSigned (-((k + 1 : Nat) : Int)) = true := by
      rw [Word.isSigned, Bool.and_eq_true, decide_eq_true_eq, decide_eq_true_eq]
      omega
    simp only [hsmall, Numeral.value, Numeral.isWhole, decimal_toDigits, hword]
    rfl

/-- The characters that a written number can begin with. -/
def StartsNumber (c : Char) : Prop := isDigit c = true ∨ c = '-'

theorem renderInt_eq_cons (n : Int) : ∃ c cs, renderInt n = c :: cs ∧ StartsNumber c := by
  cases n with
  | ofNat k =>
    obtain ⟨c, cs, hc, hdigit⟩ := toDigits_eq_cons k
    exact ⟨c, cs, hc, Or.inl hdigit⟩
  | negSucc k => exact ⟨_, _, rfl, Or.inr rfl⟩

theorem StartsNumber.toNat_lt {c : Char} (h : StartsNumber c) : c.toNat < 128 := by
  rcases h with h | rfl
  · have := (isDigit_iff c).mp h
    omega
  · decide

theorem StartsNumber.isSpace_eq_false {c : Char} (h : StartsNumber c) : isSpace c = false := by
  rw [isSpace, Bool.or_eq_false_iff, Bool.or_eq_false_iff, Bool.or_eq_false_iff]
  refine ⟨⟨⟨?_, ?_⟩, ?_⟩, ?_⟩ <;>
    exact beq_false_of_ne (by rintro rfl; rcases h with h | h <;> cases h)

theorem spelt_renderInt (n : Int) : spelt (renderInt n) = renderInt n := by
  have hdigits : ∀ k, ∀ c ∈ Nat.toDigits 10 k, c.toNat < 128 :=
    fun _ _ hc => StartsNumber.toNat_lt (Or.inl (isDigit_of_mem_toDigits hc))
  refine spelt_of_ascii ?_
  cases n with
  | ofNat k => exact hdigits k
  | negSucc k => exact List.forall_mem_cons.mpr ⟨by decide, hdigits (k + 1)⟩

/-! ## Values -/

/-- The values that have a written form of their own: no number beyond 64 bits, and nothing that
stands for no value. -/
inductive Plain : Json → Prop
  | null : Plain .null
  | bool (b : Bool) : Plain (.bool b)
  | int {n : Int} (h : IsWord n) : Plain (.int n)
  | text (s : String) : Plain (.text s)
  | list {xs : List Json} (h : ∀ x ∈ xs, Plain x) : Plain (.list xs)
  | record {fields : List (String × Json)} (h : ∀ f ∈ fields, Plain f.2) : Plain (.record fields)

theorem Plain.texts (xs : List String) : Plain (ofTexts xs) := by
  refine .list fun x hx => ?_
  obtain ⟨s, -, rfl⟩ := List.mem_map.mp hx
  exact .text s

/-- A written value begins with a character that is no blank and closes no list. -/
theorem Plain.renderChars_eq_cons {j : Json} (h : j.Plain) :
    ∃ c cs, renderChars j = c :: cs ∧ c.toNat < 128 ∧ isSpace c = false ∧ c ≠ ']' := by
  cases h with
  | null => exact ⟨_, _, rfl, by decide⟩
  | bool b => cases b <;> exact ⟨_, _, rfl, by decide⟩
  | @int n _ =>
    obtain ⟨c, cs, hc, hstart⟩ := renderInt_eq_cons n
    refine ⟨c, cs, hc, hstart.toNat_lt, hstart.isSpace_eq_false, ?_⟩
    rintro rfl
    rcases hstart with h | h <;> cases h
  | text s => exact ⟨_, _, rfl, by decide⟩
  | @list xs _ => cases xs <;> exact ⟨_, _, rfl, by decide⟩
  | @record fields _ => rcases fields with _ | ⟨⟨name, x⟩, fields⟩ <;> exact ⟨_, _, rfl, by decide⟩

theorem skipSpace_cons {c : Char} (h : isSpace c = false) (cs : List Char) :
    skipSpace (c :: cs) = c :: cs :=
  List.dropWhile_cons_of_neg (by rw [h]; decide)

/-- Whether a value is read wherever it stands written. Each step of the reader is paid for by a
bracket, a comma or a value's own character. -/
def IsRead (j : Json) : Prop :=
  ∀ fuel rest, (renderChars j).length ≤ fuel → Ends rest →
    readValue fuel (spelt (renderChars j) ++ rest) = some (j, rest)

/-- One item is read, and what follows it decides how the list goes on. -/
theorem readItems_step {x : Json} (hx : IsRead x) {fuel : Nat}
    (hfuel : (renderChars x).length ≤ fuel) (seen : List Json) {rest : List Char}
    (hrest : Ends rest) :
    readItems (fuel + 1) seen (spelt (renderChars x) ++ rest) =
      match skipSpace rest with
      | ']' :: rest => some (.list (x :: seen).reverse, rest)
      | ',' :: rest => readItems fuel (x :: seen) rest
      | _ => none := by
  have hread := hx fuel rest hfuel hrest
  rw [readItems]
  generalize readValue fuel (spelt (renderChars x) ++ rest) = o at hread ⊢
  subst hread
  rfl

theorem readItems_render {x : Json} {xs : List Json} (hx : IsRead x) (hxs : ∀ y ∈ xs, IsRead y)
    {fuel : Nat} (hfuel : (renderChars x ++ renderItems xs).length ≤ fuel) (seen : List Json)
    (rest : List Char) :
    readItems fuel seen (spelt (renderChars x ++ renderItems xs) ++ rest) =
      some (.list (seen.reverse ++ x :: xs), rest) := by
  induction xs generalizing x seen fuel with
  | nil =>
    rw [renderItems, List.length_append, List.length_singleton] at hfuel
    obtain _ | fuel := fuel
    · omega
    rw [renderItems, spelt_append, spelt_singleton (by decide), List.append_assoc,
      List.singleton_append, readItems_step hx (by omega) _ (ends_cons (.inr (.inl rfl)) rest),
      skipSpace_cons (by decide), List.reverse_cons]
    rfl
  | cons y ys ih =>
    obtain ⟨hy, hys⟩ := List.forall_mem_cons.mp hxs
    rw [renderItems, List.cons_append, List.length_append, List.length_cons] at hfuel
    obtain _ | fuel := fuel
    · omega
    rw [renderItems, List.cons_append, spelt_append, spelt_cons (by decide), List.append_assoc,
      List.cons_append, readItems_step hx (by omega) _ (ends_cons (.inl rfl) _),
      skipSpace_cons (by decide)]
    show readItems fuel (x :: seen) _ = _
    rw [ih hy hys (by omega), List.reverse_cons, List.append_assoc, List.singleton_append]

/-- Fields whose names all have values. -/
def labelled (fields : List (String × Json)) : List (Option String × Json) :=
  fields.map fun f => (some f.1, f.2)

theorem mapM_labelled {f : Option String × Json → Option (String × Json)}
    (hf : ∀ name x, f (some name, x) = some (name, x)) (fields : List (String × Json)) :
    (labelled fields).mapM f = some fields := by
  induction fields with
  | nil => rfl
  | cons p fields ih =>
    rw [labelled] at ih ⊢
    rw [List.map_cons, List.mapM_cons, hf, ih]
    rfl

theorem assemble_labelled (fields : List (String × Json)) :
    assemble (labelled fields) = .record fields := by
  rw [assemble, mapM_labelled fun _ _ => rfl]

/-- One field is read, and what follows it decides how the record goes on. -/
theorem readFields_step {x : Json} (hx : IsRead x) {fuel : Nat}
    (hfuel : (renderChars x).length ≤ fuel) (name : String) (seen : List (Option String × Json))
    {rest : List Char} (hrest : Ends rest) :
    readFields (fuel + 1) seen (spelt (renderText name ++ ':' :: renderChars x) ++ rest) =
      match skipSpace rest with
      | '\x7d' :: rest => some (assemble ((some name, x) :: seen).reverse, rest)
      | ',' :: rest => readFields fuel ((some name, x) :: seen) rest
      | _ => none := by
  have hname : readText (spelt (name.toList.flatMap escape ++ ['"'] ++ ':' :: renderChars x) ++
      rest) = some (some name, ':' :: (spelt (renderChars x) ++ rest)) := by
    rw [spelt_append, List.append_assoc, readText_render, spelt_cons (by decide), List.cons_append]
  rw [renderText, List.cons_append, List.cons_append, spelt_cons (by decide), List.cons_append,
    readFields, skipSpace_cons (by decide)]
  simp only [hname, skipSpace_cons (show isSpace ':' = false by decide)]
  have hread := hx fuel rest hfuel hrest
  generalize readValue fuel (spelt (renderChars x) ++ rest) = o at hread ⊢
  subst hread
  rfl

theorem readFields_render {x : Json} {fields : List (String × Json)} (hx : IsRead x)
    (hfields : ∀ f ∈ fields, IsRead f.2) (name : String) {fuel : Nat}
    (hfuel : (renderText name ++ ':' :: renderChars x ++ renderFields fields).length ≤ fuel)
    (seen : List (String × Json)) (rest : List Char) :
    readFields fuel (labelled seen)
        (spelt (renderText name ++ ':' :: renderChars x ++ renderFields fields) ++ rest) =
      some (.record (seen.reverse ++ (name, x) :: fields), rest) := by
  induction fields generalizing x name seen fuel with
  | nil =>
    rw [renderFields, List.length_append, List.length_append, List.length_cons,
      List.length_singleton] at hfuel
    obtain _ | fuel := fuel
    · omega
    rw [renderFields, spelt_append, spelt_singleton (by decide), List.append_assoc,
      List.singleton_append, readFields_step hx (by omega) _ _ (ends_cons (.inr (.inr rfl)) rest),
      skipSpace_cons (by decide)]
    have hlabelled : ((some name, x) :: labelled seen).reverse =
        labelled (seen.reverse ++ [(name, x)]) := by
      simp [labelled]
    show some (assemble ((some name, x) :: labelled seen).reverse, rest) = _
    rw [hlabelled, assemble_labelled]
  | cons f fields ih =>
    obtain ⟨hf, hfields⟩ := List.forall_mem_cons.mp hfields
    rw [renderFields, List.length_append, List.length_append, List.length_cons, List.cons_append,
      List.cons_append, List.length_cons] at hfuel
    obtain _ | fuel := fuel
    · omega
    rw [renderFields, List.cons_append, List.cons_append, spelt_append, spelt_cons (by decide),
      List.append_assoc, List.cons_append,
      readFields_step hx (by omega) _ _ (ends_cons (.inl rfl) _), skipSpace_cons (by decide)]
    show readFields fuel (labelled ((name, x) :: seen)) _ = _
    rw [ih hf hfields f.1 (by omega), List.reverse_cons, List.append_assoc, List.singleton_append]

theorem readValue_number {c : Char} (h : StartsNumber c) (cs : List Char) (fuel : Nat) :
    readValue (fuel + 1) (c :: cs) = readNumber (c :: cs) := by
  rw [readValue, skipSpace_cons h.isSpace_eq_false]
  -- Every other kind of value begins with a character of its own.
  split
  all_goals first | rfl | next heq => cases heq; rcases h with h | h <;> cases h

theorem readValue_text (cs : List Char) (fuel : Nat) :
    readValue (fuel + 1) ('"' :: cs) =
      (readText cs).map fun (s, rest) => ((s.map Json.text).getD .void, rest) := rfl

theorem readValue_list {c : Char} (hspace : isSpace c = false) (hc : c ≠ ']') (cs : List Char)
    (fuel : Nat) : readValue (fuel + 1) ('[' :: c :: cs) = readItems fuel [] (c :: cs) := by
  rw [readValue, skipSpace_cons (by decide)]
  simp only [skipSpace_cons hspace]
  split
  · next heq =>
    cases heq
    exact absurd rfl hc
  · rfl

theorem readValue_record (cs : List Char) (fuel : Nat) :
    readValue (fuel + 1) ('\x7b' :: '"' :: cs) = readFields fuel [] ('"' :: cs) := rfl

/-- No written value is empty, so that the first step can be made. -/
theorem Plain.isRead_of_step {j : Json} (hj : j.Plain)
    (h : ∀ fuel rest, (renderChars j).length ≤ fuel + 1 → Ends rest →
      readValue (fuel + 1) (spelt (renderChars j) ++ rest) = some (j, rest)) : IsRead j := by
  intro fuel rest hfuel hrest
  obtain _ | fuel := fuel
  · obtain ⟨c, cs, hc, -⟩ := hj.renderChars_eq_cons
    rw [hc] at hfuel
    cases hfuel
  · exact h fuel rest hfuel hrest

theorem isRead_int {n : Int} (hn : IsWord n) : IsRead (.int n) := by
  refine (Plain.int hn).isRead_of_step fun fuel rest _ hrest => ?_
  obtain ⟨c, cs, hc, hstart⟩ := renderInt_eq_cons n
  have hread := readNumber_renderInt hn hrest
  rw [renderChars, spelt_renderInt]
  rw [hc, List.cons_append] at hread ⊢
  rw [readValue_number hstart, hread]

theorem isRead_text (s : String) : IsRead (.text s) := by
  refine (Plain.text s).isRead_of_step fun fuel rest _ _ => ?_
  rw [renderChars, renderText, List.cons_append, spelt_cons (by decide), List.cons_append,
    readValue_text, readText_render]
  rfl

theorem isRead_list {xs : List Json} (h : ∀ x ∈ xs, Plain x) (ih : ∀ x ∈ xs, IsRead x) :
    IsRead (.list xs) := by
  refine (Plain.list h).isRead_of_step fun fuel rest hfuel _ => ?_
  cases xs with
  | nil => rfl
  | cons x xs =>
    obtain ⟨hx, hxs⟩ := List.forall_mem_cons.mp ih
    obtain ⟨c, cs, hc, hascii, hspace, hclose⟩ := (h x List.mem_cons_self).renderChars_eq_cons
    have hread := readItems_render hx hxs (Nat.le_of_succ_le_succ hfuel) [] rest
    have hstart : spelt (renderChars x ++ renderItems xs) ++ rest =
        c :: (spelt (cs ++ renderItems xs) ++ rest) := by
      rw [hc, List.cons_append, spelt_cons hascii, List.cons_append]
    rw [renderChars, List.cons_append, spelt_cons (by decide), List.cons_append]
    rw [hstart] at hread ⊢
    rw [readValue_list hspace hclose, hread]
    rfl

theorem isRead_record {fields : List (String × Json)} (h : ∀ f ∈ fields, Plain f.2)
    (ih : ∀ f ∈ fields, IsRead f.2) : IsRead (.record fields) := by
  refine (Plain.record h).isRead_of_step fun fuel rest hfuel _ => ?_
  obtain _ | ⟨⟨name, x⟩, fields⟩ := fields
  · rfl
  obtain ⟨hx, hfields⟩ := List.forall_mem_cons.mp ih
  have hread := readFields_render hx hfields name (Nat.le_of_succ_le_succ hfuel) [] rest
  have hstart : spelt (renderText name ++ ':' :: renderChars x ++ renderFields fields) ++ rest =
      '"' :: (spelt (name.toList.flatMap escape ++ ['"'] ++ ':' :: renderChars x ++
        renderFields fields) ++ rest) := by
    rw [renderText, List.cons_append, List.cons_append, List.cons_append,
      spelt_cons (by decide), List.cons_append]
  rw [renderChars, List.cons_append, List.cons_append, spelt_cons (by decide), List.cons_append]
  rw [hstart] at hread ⊢
  exact (readValue_record _ _).trans hread

/-- A value is read wherever it stands written. -/
theorem Plain.isRead {j : Json} (h : j.Plain) : IsRead j := by
  induction h with
  | null => exact Plain.null.isRead_of_step fun _ _ _ _ => rfl
  | bool b =>
    refine (Plain.bool b).isRead_of_step fun _ _ _ _ => ?_
    cases b <;> rfl
  | int hn => exact isRead_int hn
  | text s => exact isRead_text s
  | list h ih => exact isRead_list h ih
  | record h ih => exact isRead_record h ih

/-- What is read of the bytes of a written value is the value. -/
theorem Plain.readLoosely_render {j : Json} (h : j.Plain) :
    readLoosely (utf8 j.render) = some j := by
  have hfuel : (renderChars j).length ≤ 2 * (spelt (renderChars j)).length + 2 := by
    have := length_le_length_spelt (renderChars j)
    omega
  have hread := h.isRead _ [] hfuel ends_nil
  rw [List.append_nil] at hread
  rw [readLoosely, byteChars_utf8, render, String.toList_ofList, readChars, hread]
  rfl

end Gateway.Json
