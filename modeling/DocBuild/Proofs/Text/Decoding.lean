import Mathlib.Tactic.SplitIfs
import DocBuild.Text.Utf8

/-!
# Reading encoded text

The octets of a code point that is no surrogate are read as one piece, whatever stands behind them. So a text without
surrogates is read from its octets as it was.
-/

namespace DocBuild

/-- The number of a code point that is no surrogate: it stands for a character. -/
def CodePoint.IsScalar (c : CodePoint) : Prop := c.val < 0xD800 ∨ 0xE000 ≤ c.val

instance (c : CodePoint) : Decidable c.IsScalar := inferInstanceAs (Decidable (_ ∨ _))

namespace PieceReader

variable {read : PieceReader} {found : List Piece}

/-- Octets that belong to the piece found last are passed over. -/
theorem onto_skip (taken rest : Bytes) : onto read found taken.length (taken ++ rest) = onto read found 0 rest := by
  induction taken with
  | nil => rfl
  | cons b taken ih => exact ih

/-- A piece with all of its octets is found, and reading goes on behind them. -/
theorem onto_piece {first : UInt8} {taken rest : Bytes} {piece : Piece} (h : read first (taken ++ rest) = piece)
    (hlength : piece.length = taken.length + 1) :
    onto read found 0 (first :: taken ++ rest) = onto read (piece :: found) 0 rest := by
  rw [List.cons_append, onto, h, hlength, Nat.add_sub_cancel]
  exact onto_skip taken rest

end PieceReader

namespace Utf8

variable {c : CodePoint} {rest : Bytes}

/-- An octet with a number below 256 has this number. -/
theorem toNat_octet {n : Nat} (h : n < 256) : (UInt8.ofNat n).toNat = n := UInt8.toNat_ofNat_of_lt' h

/-- A continuation octet is one more. -/
theorem continuation_cons (value taken wanted : Nat) {bits : Nat} (hbits : bits < 64) (rest : Bytes) :
    continuation value taken (wanted + 1) (UInt8.ofNat (0x80 + bits) :: rest) =
      continuation (value * 64 + bits) (taken + 1) wanted rest := by
  have hoctet : (UInt8.ofNat (0x80 + bits)).toNat = 0x80 + bits := toNat_octet (by omega)
  have hfits : isContinuation (UInt8.ofNat (0x80 + bits)) = true := by
    simp only [isContinuation, hoctet, Bool.and_eq_true, decide_eq_true_eq]
    omega
  rw [continuation, if_pos hfits, hoctet]
  congr 2
  omega

/-- The first continuation octet is one more, if it may follow the leading octet. -/
theorem sequenceFrom_cons {lead value bits : Nat} (wanted : Nat) (hlead : lead < 256) (hbits : bits < 64)
    (hE0 : lead = 0xE0 → 0x20 ≤ bits) (hED : lead = 0xED → bits < 0x20) (hF0 : lead = 0xF0 → 0x10 ≤ bits)
    (hF4 : lead = 0xF4 → bits < 0x10) (rest : Bytes) :
    sequenceFrom (UInt8.ofNat lead) value wanted (UInt8.ofNat (0x80 + bits) :: rest) =
      continuation (value * 64 + bits) 2 wanted rest := by
  have hoctet : (UInt8.ofNat (0x80 + bits)).toNat = 0x80 + bits := toNat_octet (by omega)
  have hfollows : mayFollow (UInt8.ofNat lead) (UInt8.ofNat (0x80 + bits)) = true := by
    simp only [mayFollow, isContinuation, hoctet, toNat_octet hlead, Bool.and_eq_true, decide_eq_true_eq]
    refine ⟨by omega, ?_⟩
    split_ifs <;> simp only [decide_eq_true_eq] <;> omega
  rw [sequenceFrom, if_pos hfollows, hoctet]
  congr 2
  omega

/-- The octets of a code point that is no surrogate are read as the code point. -/
theorem read_encodePoint (h : c.IsScalar) : ∃ first taken, encodePoint c = first :: taken ∧
    ∀ rest, read first (taken ++ rest) = .point c (taken.length + 1) := by
  have hlt := c.val_lt
  unfold CodePoint.IsScalar at h
  unfold encodePoint
  dsimp only
  split_ifs with hone htwo hthree
  · refine ⟨_, [], rfl, fun rest => ?_⟩
    have hlead : (UInt8.ofNat c.val).toNat = c.val := toNat_octet (by omega)
    rw [read, hlead, if_pos hone, CodePoint.ofByte, hlead, CodePoint.ofNat_val]
    rfl
  · refine ⟨_, [_], rfl, fun rest => ?_⟩
    have hlead : (UInt8.ofNat (0xC0 + c.val / 64)).toNat = 0xC0 + c.val / 64 := toNat_octet (by omega)
    have hvalue : (0xC0 + c.val / 64) % 32 * 64 + c.val % 64 = c.val := by omega
    rw [read, hlead, if_neg (by omega), if_neg (by omega), if_pos (by omega), List.singleton_append,
      sequenceFrom_cons 0 (by omega) (by omega) (by omega) (by omega) (by omega) (by omega), hvalue, continuation,
      CodePoint.ofNat_val]
    rfl
  · refine ⟨_, [_, _], rfl, fun rest => ?_⟩
    have hlead : (UInt8.ofNat (0xE0 + c.val / 4096)).toNat = 0xE0 + c.val / 4096 := toNat_octet (by omega)
    have hvalue : ((0xE0 + c.val / 4096) % 16 * 64 + c.val / 64 % 64) * 64 + c.val % 64 = c.val := by omega
    rw [read, hlead, if_neg (by omega), if_neg (by omega), if_neg (by omega), if_pos (by omega), List.cons_append,
      List.singleton_append,
      sequenceFrom_cons 1 (by omega) (by omega) (by omega) (by omega) (by omega) (by omega),
      continuation_cons _ 2 0 (by omega), hvalue, continuation, CodePoint.ofNat_val]
    rfl
  · refine ⟨_, [_, _, _], rfl, fun rest => ?_⟩
    have hlead : (UInt8.ofNat (0xF0 + c.val / 262144)).toNat = 0xF0 + c.val / 262144 := toNat_octet (by omega)
    have hvalue : (((0xF0 + c.val / 262144) % 8 * 64 + c.val / 4096 % 64) * 64 + c.val / 64 % 64) * 64 + c.val % 64 =
        c.val := by omega
    rw [read, hlead, if_neg (by omega), if_neg (by omega), if_neg (by omega), if_neg (by omega), if_pos (by omega),
      List.cons_append, List.cons_append, List.singleton_append,
      sequenceFrom_cons 2 (by omega) (by omega) (by omega) (by omega) (by omega) (by omega),
      continuation_cons _ 2 1 (by omega), continuation_cons _ 3 0 (by omega), hvalue, continuation,
      CodePoint.ofNat_val]
    rfl

/-- What is read from the octets of a text, piece by piece, are its code points. -/
theorem onto_encode {t : Text} (h : ∀ c ∈ t, c.IsScalar) (found : List Piece) :
    (PieceReader.onto read found 0 (encode t)).reverse.flatMap Piece.lenient =
      found.reverse.flatMap Piece.lenient ++ t := by
  induction t generalizing found with
  | nil => simp [encode, PieceReader.onto]
  | cons c t ih =>
    obtain ⟨hc, ht⟩ := List.forall_mem_cons.mp h
    obtain ⟨first, taken, hoctets, hread⟩ := read_encodePoint hc
    have hencode : encode (c :: t) = first :: taken ++ encode t := by
      rw [encode, List.flatMap_cons, hoctets]
      rfl
    rw [hencode, PieceReader.onto_piece (hread _) rfl, ih ht]
    simp [Piece.lenient]

/-- A text without surrogates is read from its octets. -/
theorem lenient_encode {t : Text} (h : ∀ c ∈ t, c.IsScalar) : read.lenient (encode t) = t :=
  onto_encode h []

end Utf8

end DocBuild
