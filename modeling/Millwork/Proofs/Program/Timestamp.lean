import Millwork.Proofs.Controller.View

namespace Millwork

/-! ## Moments -/

theorem digits_append_injective {front front' rest rest' : List Char}
    (digits : ∀ c ∈ front, c.isDigit = true) (digits' : ∀ c ∈ front', c.isDigit = true)
    (ends : ∀ c ∈ rest.head?, c.isDigit = false) (ends' : ∀ c ∈ rest'.head?, c.isDigit = false)
    (same : front ++ rest = front' ++ rest') : front = front' ∧ rest = rest' := by
  have stops {rest : List Char} (ends : ∀ c ∈ rest.head?, c.isDigit = false) :
      rest.takeWhile Char.isDigit = [] := by
    cases rest with
    | nil => rfl
    | cons c rest => simp [ends c rfl]
  have fronts := congrArg (List.takeWhile Char.isDigit) same
  rw [List.takeWhile_append_of_pos digits, List.takeWhile_append_of_pos digits', stops ends,
    stops ends', List.append_nil, List.append_nil] at fronts
  subst fronts
  exact ⟨rfl, List.append_cancel_left same⟩

namespace Timestamp

theorem toList_padded (width n : Nat) : (padded width n).toList =
    List.replicate (width - (Decimal.digits n).length) '0' ++ Decimal.digits n := by
  rw [padded, String.toList_ofList]

theorem isDigit_padded (width n : Nat) : ∀ c ∈ (padded width n).toList, c.isDigit = true := by
  intro c mem
  rw [toList_padded, List.mem_append] at mem
  rcases mem with zero | digit
  · rw [List.eq_of_mem_replicate zero]
    rfl
  · exact Nat.isDigit_of_mem_toDigits (by decide) (by decide) digit

theorem padded_injective {width m n : Nat}
    (same : (padded width m).toList = (padded width n).toList) : m = n := by
  have values := congrArg (Nat.ofDigitChars 10 · 0) same
  simpa [toList_padded, Decimal.digits, Nat.ofDigitChars_append,
    Nat.ofDigitChars_replicate_zero, Nat.ofDigitChars_toDigits] using values

def fraction (microsecond : Nat) : List Char :=
  if microsecond = 0 then [] else '.' :: (padded 6 microsecond).toList

theorem toList_text (stamp : Timestamp) : stamp.text.toList =
    (padded 4 stamp.year).toList ++ '-' :: ((padded 2 stamp.month).toList ++
      '-' :: ((padded 2 stamp.day).toList ++ 'T' :: ((padded 2 stamp.hour).toList ++
      ':' :: ((padded 2 stamp.minute).toList ++ ':' :: ((padded 2 stamp.second).toList ++
      (fraction stamp.microsecond ++ ['+', '0', '0', ':', '0', '0'])))))) := by
  unfold text fraction
  split <;> simp [toString]

theorem fraction_injective {m n : Nat} {rest : List Char}
    (ends : ∀ c ∈ rest.head?, c.isDigit = false ∧ c ≠ '.')
    (same : fraction m ++ rest = fraction n ++ rest) : m = n := by
  have apart (k : Nat) : rest ≠ '.' :: (padded 6 k).toList ++ rest := by
    intro same
    rw [same] at ends
    exact (ends '.' rfl).2 rfl
  have digits (c : Char) (mem : c ∈ rest.head?) := (ends c mem).1
  unfold fraction at same
  by_cases first : m = 0
  · by_cases second : n = 0
    · rw [first, second]
    · rw [if_pos first, if_neg second] at same
      exact absurd same (apart n)
  · by_cases second : n = 0
    · rw [if_neg first, if_pos second] at same
      exact absurd same.symm (apart m)
    · rw [if_neg first, if_neg second] at same
      have parts := digits_append_injective (isDigit_padded 6 m) (isDigit_padded 6 n) digits digits
        (List.cons.inj same).2
      exact padded_injective parts.1

theorem text_injective {first second : Timestamp} (same : first.text = second.text) :
    first = second := by
  have chars := congrArg String.toList same
  rw [toList_text, toList_text] at chars
  -- Between two numbers stands a mark that is no digit, so they are peeled off one by one.
  have peel {width m n : Nat} {c : Char} {rest rest' : List Char} (mark : c.isDigit = false)
      (same : (padded width m).toList ++ c :: rest = (padded width n).toList ++ c :: rest') :
      m = n ∧ rest = rest' := by
    have parts := digits_append_injective (isDigit_padded width m) (isDigit_padded width n)
      (by simpa using mark) (by simpa using mark) same
    exact ⟨padded_injective parts.1, (List.cons.inj parts.2).2⟩
  obtain ⟨year, chars⟩ := peel rfl chars
  obtain ⟨month, chars⟩ := peel rfl chars
  obtain ⟨day, chars⟩ := peel rfl chars
  obtain ⟨hour, chars⟩ := peel rfl chars
  obtain ⟨minute, chars⟩ := peel rfl chars
  have ends (microsecond : Nat) :
      ∀ c ∈ (fraction microsecond ++ ['+', '0', '0', ':', '0', '0']).head?, c.isDigit = false := by
    unfold fraction
    split <;> simp
  obtain ⟨seconds, chars⟩ := digits_append_injective (isDigit_padded _ _) (isDigit_padded _ _)
    (ends _) (ends _) chars
  have microsecond := fraction_injective (by simp) chars
  have seconds := padded_injective seconds
  cases first
  cases second
  simp_all

theorem mem_text {stamp : Timestamp} {c : Char} (mem : c ∈ stamp.text.toList) :
    c.isDigit = true ∨ c ∈ ['-', 'T', ':', '+', '.', '0'] := by
  rw [toList_text] at mem
  unfold fraction at mem
  by_cases digit : c.isDigit = true
  · exact .inl digit
  · have apart (width n : Nat) : c ∉ (padded width n).toList :=
      fun mem => digit (isDigit_padded width n c mem)
    split at mem <;> simp [apart] at mem ⊢ <;> grind

end Timestamp

/-! ## Remarks -/

def Timestamp.remark (stamp : Timestamp) : String := "Generated: " ++ stamp.text

theorem flatten_of_clean {text : List Char} (clean : ∀ c ∈ text, Text.isControl c = false) :
    flatten text = text := by
  induction text with
  | nil => rfl
  | cons c text ih =>
      rw [List.forall_mem_cons] at clean
      simp [flatten, clean.1, ih clean.2]

theorem Text.Bare.trim_flatten {text : List Char} (bare : Text.Bare text) :
    Text.trim (flatten text) = text := by
  have clean : ∀ c ∈ text, Text.isControl c = false := by
    intro c mem
    rcases bare.plain c mem with plain | rfl
    · exact Text.isControl_of_isPlain plain
    · decide
  rw [flatten_of_clean clean]
  have trimmed := @Text.trim_append text [] bare.first bare.last (by simp)
  rwa [List.append_nil] at trimmed

theorem Timestamp.bare_remark (stamp : Timestamp) : Text.Bare stamp.remark.toList := by
  have letters : "Generated:".toList.all Text.isPlain = true := by decide
  have word : Text.Bare "Generated:".toList :=
    Text.bare_of_plain (by decide) (List.all_eq_true.mp letters)
  have nonempty : stamp.text.toList ≠ [] := by simp [Timestamp.toList_text]
  have plain : ∀ c ∈ stamp.text.toList, Text.isPlain c = true := by
    intro c mem
    rcases Timestamp.mem_text mem with digit | mark
    · apply Text.isPlain_of_isAlphanum
      simp [Char.isAlphanum, digit]
    · have marks : ['-', 'T', ':', '+', '.', '0'].all Text.isPlain = true := by decide
      exact List.all_eq_true.mp marks c mark
  have both := word.append (Text.bare_of_plain nonempty plain)
  rwa [Timestamp.remark, String.toList_append]

theorem Timestamp.bracket_not_mem_remark (stamp : Timestamp) :
    ∀ c ∈ stamp.remark.toList, c ∉ ['(', ')', '[', ']'] := by
  intro c mem
  rw [Timestamp.remark, String.toList_append, List.mem_append] at mem
  -- None of the letters, digits and marks is a bracket.
  have apart {text : List Char} (mem : c ∈ text)
      (checked : text.all (fun d => !(['(', ')', '[', ']'].contains d)) = true) :
      c ∉ ['(', ')', '[', ']'] := by
    have own := List.all_eq_true.mp checked c mem
    simpa using own
  rcases mem with word | time
  · exact apart word (by decide)
  · rcases Timestamp.mem_text time with digit | mark
    · intro bracket
      simp at bracket
      rcases bracket with rfl | rfl | rfl | rfl <;> cases digit
    · exact apart mark (by decide)

theorem map_squareBracket_eq_iff {line text : List Char}
    (apart : ∀ c ∈ text, c ∉ ['(', ')', '[', ']']) :
    line.map squareBracket = text ↔ line = text := by
  induction line generalizing text with
  | nil => rfl
  | cons c line ih =>
      cases text with
      | nil => simp
      | cons d text =>
          rw [List.forall_mem_cons] at apart
          simp [CommentStyle.squareBracket_eq_iff apart.1, ih apart.2]

theorem CommentStyle.body_eq_remark_iff (style : CommentStyle) (stamp : Timestamp) (text : String) :
    style.body text = style.body stamp.remark ↔
      Text.trim (flatten text.toList) = stamp.remark.toList := by
  unfold body
  rw [stamp.bare_remark.trim_flatten]
  cases style with
  | semicolon => rfl
  | brackets =>
      have own := (map_squareBracket_eq_iff stamp.bracket_not_mem_remark).mpr rfl
      simp only [own]
      exact map_squareBracket_eq_iff stamp.bracket_not_mem_remark

end Millwork
