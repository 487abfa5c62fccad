import Mathlib.Data.List.Basic
import DocBuild.Text.Basic

/-!
# Literals and numerals as texts

A literal is determined by its characters and a numeral by its number. A numeral consists of digits alone,
so a text without digits can be told from the numeral that follows it.
-/

namespace DocBuild

/-- A character is determined by its code point. -/
theorem CodePoint.ofChar_injective : Function.Injective CodePoint.ofChar := by
  intro c d h
  have hval : c.toNat = d.toNat := congrArg CodePoint.val h
  exact Char.ext (UInt32.toNat_inj.mp hval)

/-- A digit among the characters is one among the code points. -/
theorem CodePoint.isDigit_ofChar (c : Char) (h : c.isDigit = true) : (CodePoint.ofChar c).isDigit = true := by
  simp only [Char.isDigit, ge_iff_le, Bool.and_eq_true, decide_eq_true_eq] at h
  simp only [CodePoint.isDigit, CodePoint.ofChar, Bool.and_eq_true]
  exact ⟨decide_eq_true (UInt32.le_iff_toNat_le.mp h.1), decide_eq_true (UInt32.le_iff_toNat_le.mp h.2)⟩

namespace Text

/-- Literals with the same code points are the same. -/
theorem ofString_injective : Function.Injective ofString := by
  intro s t h
  exact String.toList_injective (List.map_injective_iff.mpr CodePoint.ofChar_injective h)

/-- Comparing literals as texts is comparing them as strings. -/
@[simp] theorem ofString_inj (s t : String) : (ofString s = ofString t) = (s = t) :=
  propext ofString_injective.eq_iff

/-- A numeral is determined by its number. -/
theorem ofNat_injective : Function.Injective ofNat := by
  intro m n h
  have hdigits : Nat.toDigits 10 m = Nat.toDigits 10 n :=
    List.map_injective_iff.mpr CodePoint.ofChar_injective h
  rw [← Nat.ofDigitChars_ten_toDigits (n := m), hdigits, Nat.ofDigitChars_ten_toDigits]

/-- A numeral consists of digits. -/
theorem isDigit_of_mem_ofNat (n : Nat) (c : CodePoint) (h : c ∈ ofNat n) : c.isDigit = true := by
  obtain ⟨d, hd, rfl⟩ := List.mem_map.mp h
  exact CodePoint.isDigit_ofChar d (Nat.isDigit_of_mem_toDigits (by decide) (by decide) hd)

/-- Cutting off what is no digit leaves the numeral at the end. -/
theorem dropWhile_append_ofNat (tag : Text) (n : Nat) (htag : ∀ c ∈ tag, c.isDigit = false) :
    (tag ++ ofNat n).dropWhile (fun c => !c.isDigit) = ofNat n := by
  rw [List.dropWhile_append_of_pos (fun c hc => by simp [htag c hc])]
  cases hn : ofNat n with
  | nil => rfl
  | cons d rest =>
    have hd : d.isDigit = true := isDigit_of_mem_ofNat n d (by rw [hn]; exact List.mem_cons_self)
    exact List.dropWhile_cons_of_neg (by simp [hd])

/-- Tags without digits keep the numbers that follow them apart. -/
theorem append_ofNat_inj (tag tag' : Text) (m n : Nat) (htag : ∀ c ∈ tag, c.isDigit = false)
    (htag' : ∀ c ∈ tag', c.isDigit = false) (h : tag ++ ofNat m = tag' ++ ofNat n) : m = n := by
  have hdrop := congrArg (List.dropWhile fun c => !c.isDigit) h
  rw [dropWhile_append_ofNat tag m htag, dropWhile_append_ofNat tag' n htag'] at hdrop
  exact ofNat_injective hdrop

end Text

end DocBuild
