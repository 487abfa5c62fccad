import Mathlib.Data.List.SplitBy
import Mathlib.Data.List.TakeWhile
import DocBuild.Proofs.FilePath.Name
import DocBuild.Proofs.Text.Decoding
import DocBuild.Url

/-!
# File names in addresses

The file name of an address is one name: it is not empty, has no slash and is no point, however slashes and points are
written in the address. Every name with these three properties is the file name of an address: of any host behind which
stands a slash and then the octets of the name as percent escapes.
-/

namespace DocBuild

namespace Url

/-- The sign that begins an escape. -/
def percent : CodePoint := CodePoint.ofChar '%'

/-- A text spells octets if it has, for each of them, a percent sign and the two hexadecimal digits of its number, in
small or in capital letters. -/
inductive Spells : Text → Bytes → Prop where
  | nil : Spells [] []
  | cons {high low : CodePoint} {octet : UInt8} {t : Text} {octets : Bytes}
      (hhigh : high.hexValue? = some (octet.toNat / 16)) (hlow : low.hexValue? = some (octet.toNat % 16))
      (h : Spells t octets) : Spells (percent :: high :: low :: t) (octet :: octets)

/-- The percent escapes of octets. -/
def escape (octets : Bytes) : Text := octets.flatMap fun octet => percent :: Text.hex 2 octet.toNat

/-- A letter or a digit, a point or a hyphen, of which hosts are made. Of the characters beyond ASCII none is excluded but
those that stand for a delimiter. -/
def isHostSign (c : CodePoint) : Bool :=
  c.isLetter || c.isDigit || c = point || c = CodePoint.ofChar '-' || (0x80 ≤ c.val && !disguises.contains c.val)

/-- A character of an address that is neither a blank nor a control character, and at which an address is not taken apart
behind its authority. -/
structure IsSolid (c : CodePoint) : Prop where
  visible : 0x20 < c.val
  number : c.val ≠ 0x23
  question : c.val ≠ 0x3F
  semicolon : c.val ≠ 0x3B
  slash : c.val ≠ 0x2F

variable {t host escaped rest : Text} {octets : Bytes}

/-- A hexadecimal digit is a digit or one of the first letters. -/
theorem hexValue?_bounds {c : CodePoint} {n : Nat} (h : c.hexValue? = some n) :
    0x30 ≤ c.val ∧ c.val ≤ 0x39 ∨ 0x41 ≤ c.val ∧ c.val ≤ 0x46 ∨ 0x61 ≤ c.val ∧ c.val ≤ 0x66 := by
  unfold CodePoint.hexValue? at h
  grind

/-- A hexadecimal digit takes no address apart. -/
theorem isSolid_of_hexValue? {c : CodePoint} {n : Nat} (h : c.hexValue? = some n) : IsSolid c := by
  have hbounds := hexValue?_bounds h
  constructor <;> omega

/-- What spells octets takes no address apart. -/
theorem Spells.isSolid (h : Spells t octets) : ∀ c ∈ t, IsSolid c := by
  induction h with
  | nil => exact fun c hc => absurd hc List.not_mem_nil
  | cons hhigh hlow _ ih =>
    have hpercent : IsSolid percent := by constructor <;> decide
    exact List.forall_mem_cons.mpr ⟨hpercent, List.forall_mem_cons.mpr ⟨isSolid_of_hexValue? hhigh,
      List.forall_mem_cons.mpr ⟨isSolid_of_hexValue? hlow, ih⟩⟩⟩

/-- What spells octets is ASCII. -/
theorem Spells.isAscii (h : Spells t octets) : ∀ c ∈ t, isAscii c = true := by
  have hdigit {c : CodePoint} {n : Nat} (h : c.hexValue? = some n) : Url.isAscii c = true := by
    have hbounds := hexValue?_bounds h
    simp only [Url.isAscii, decide_eq_true_eq]
    omega
  induction h with
  | nil => exact fun c hc => absurd hc List.not_mem_nil
  | cons hhigh hlow _ ih =>
    exact List.forall_mem_cons.mpr ⟨by decide, List.forall_mem_cons.mpr ⟨hdigit hhigh,
      List.forall_mem_cons.mpr ⟨hdigit hlow, ih⟩⟩⟩

/-- A character that begins no escape is read as its octet. -/
theorem unescape_cons {c : CodePoint} (h : c.val ≠ 0x25) (rest : Text) :
    unescape (c :: rest) = UInt8.ofNat c.val :: unescape rest := by
  rcases rest with _ | ⟨a, _ | ⟨b, tail⟩⟩ <;> simp [unescape, h]

/-- What spells octets is read as these. -/
theorem Spells.unescape_eq (h : Spells t octets) : unescape t = octets := by
  induction h with
  | nil => rfl
  | @cons high low octet t octets hhigh hlow _ ih =>
    have hoctet : UInt8.ofNat (octet.toNat / 16 * 16 + octet.toNat % 16) = octet := by
      rw [Nat.div_add_mod', UInt8.ofNat_toNat]
    rw [unescape, if_pos (by decide), hhigh, hlow]
    simp only [hoctet, ih]

/-- The escapes of octets spell them. -/
theorem spells_escape (octets : Bytes) : Spells (escape octets) octets := by
  have hdigit (n : Nat) (hn : n < 16) : (CodePoint.hexDigit n).hexValue? = some n := by
    decide +revert
  induction octets with
  | nil => exact .nil
  | cons octet rest ih =>
    have hlt := octet.toNat_lt
    refine .cons ?_ ?_ ih
    · simpa [Nat.mod_eq_of_lt (show octet.toNat / 16 < 16 by omega)] using hdigit (octet.toNat / 16) (by omega)
    · simpa using hdigit (octet.toNat % 16) (by omega)

/-- A text of ASCII alone is one run of octets. -/
theorem percentDecode_of_ascii (h : ∀ c ∈ t, isAscii c = true) : percentDecode t = Utf8.read.lenient (unescape t) := by
  cases t with
  | nil => rfl
  | cons c rest =>
    have hchain : (c :: rest).IsChain fun a b => (isAscii a == isAscii b) = true := by
      refine List.Pairwise.isChain (List.pairwise_of_forall_mem_list fun a ha b hb => ?_)
      rw [h a ha, h b hb]
      rfl
    have hall : (c :: rest).all isAscii = true := List.all_eq_true.mpr h
    rw [percentDecode, List.splitBy_of_isChain (List.cons_ne_nil c rest) hchain, List.flatMap_singleton, decodeRun,
      if_pos hall]

/-- An address without blanks and control characters is taken as it is. -/
theorem cleaned_of_visible (h : ∀ c ∈ t, 0x20 < c.val) : cleaned t = t := by
  have hfront : t.dropWhile (·.val ≤ 0x20) = t := by
    cases t with
    | nil => rfl
    | cons c rest =>
      have hc := h c List.mem_cons_self
      exact List.dropWhile_cons_of_neg (by simpa using hc)
  rw [cleaned, hfront]
  refine List.filter_eq_self.mpr fun c hc => ?_
  have hvisible := h c hc
  simp only [ne_eq, decide_not, Bool.and_eq_true, Bool.not_eq_true', decide_eq_false_iff_not]
  omega

/-- A sign of a host is none at which an address is taken apart. -/
theorem isHostSign_bounds {c : CodePoint} (h : isHostSign c = true) :
    0x20 < c.val ∧ c.val ≠ 0x2F ∧ c.val ≠ 0x3F ∧ c.val ≠ 0x23 ∧ c.val ≠ 0x5B ∧ c.val ≠ 0x5D ∧ c.val ∉ disguises := by
  have hdisguises : ∀ number ∈ disguises, 0x80 ≤ number := by decide
  have hplain (hlow : c.val < 0x80) : c.val ∉ disguises := fun hmem => by
    have hhigh := hdisguises _ hmem
    omega
  simp only [isHostSign, CodePoint.isLetter, CodePoint.isDigit, Bool.or_eq_true, Bool.and_eq_true, decide_eq_true_eq,
    Bool.not_eq_true', List.contains_eq_mem, decide_eq_false_iff_not] at h
  rcases h with (((h | h) | rfl) | rfl) | h
  · exact ⟨by omega, by omega, by omega, by omega, by omega, by omega, hplain (by omega)⟩
  · exact ⟨by omega, by omega, by omega, by omega, by omega, by omega, hplain (by omega)⟩
  · decide
  · decide
  · exact ⟨by omega, by omega, by omega, by omega, by omega, by omega, h.2⟩

/-- A host, a slash and what stands behind it, all behind two slashes, are the authority and the rest. -/
theorem splitAuthority_slashes (h : ∀ c ∈ host, isHostSign c = true) (rest : Text) :
    splitAuthority ("//" ++ host ++ FilePath.slash :: rest) = (host, FilePath.slash :: rest) := by
  have hends : ∀ c ∈ host, (!(decide (c.val = 0x2F) || decide (c.val = 0x3F) || decide (c.val = 0x23))) = true := by
    intro c hc
    have hbounds := isHostSign_bounds (h c hc)
    simp
    omega
  have hslash : (!(decide (FilePath.slash.val = 0x2F) || decide (FilePath.slash.val = 0x3F) ||
      decide (FilePath.slash.val = 0x23))) = false := rfl
  change (List.takeWhile (fun c => !(decide (c.val = 0x2F) || decide (c.val = 0x3F) || decide (c.val = 0x23)))
      (host ++ FilePath.slash :: rest),
    List.dropWhile (fun c => !(decide (c.val = 0x2F) || decide (c.val = 0x3F) || decide (c.val = 0x23)))
      (host ++ FilePath.slash :: rest)) = _
  rw [List.takeWhile_append_of_pos hends, List.dropWhile_append_of_pos hends,
    List.takeWhile_cons_of_neg (by simp [hslash]), List.dropWhile_cons_of_neg (by simp [hslash]), List.append_nil]

/-- A host without a delimiter is an authority. -/
theorem checkAuthority_of_hostSigns (h : ∀ c ∈ host, isHostSign c = true) : checkAuthority host = .ok () := by
  have hnone (c : CodePoint) (hc : isHostSign c = false) : host.contains c = false := by
    rw [List.contains_eq_mem, decide_eq_false_iff_not]
    intro hmem
    cases (h c hmem).symm.trans hc
  have hopening : host.contains opening = false := hnone opening (by decide)
  have hclosing : host.contains closing = false := hnone closing (by decide)
  have hplain : host.any (disguises.contains ·.val) = false := by
    simp only [List.any_eq_false, List.contains_eq_mem, decide_eq_true_eq]
    exact fun c hc => (isHostSign_bounds (h c hc)).2.2.2.2.2.2
  unfold checkAuthority
  rw [hopening, hclosing, hplain]
  rfl

/-- A path of one segment without parameters has none to drop. -/
theorem dropParameters_slash (h : ∀ c ∈ t, IsSolid c) :
    dropParameters (FilePath.slash :: t) = FilePath.slash :: t := by
  have hsegment : ((FilePath.slash :: t).reverse.takeWhile (· ≠ FilePath.slash)).reverse = t := by
    rw [List.reverse_cons, List.takeWhile_append_of_pos]
    · simp
    · intro c hc
      have hslash := (h c (List.mem_reverse.mp hc)).slash
      simp only [decide_eq_true_eq]
      exact fun heq => hslash (congrArg CodePoint.val heq)
  have hwhole : t.takeWhile (·.val ≠ 0x3B) = t :=
    List.takeWhile_eq_self_iff.mpr fun c hc => by simpa using (h c hc).semicolon
  unfold dropParameters
  simp only [hsegment, hwhole]
  simp

/-- An address of a host with one segment behind it is split into these. -/
theorem split_segment (hhost : ∀ c ∈ host, isHostSign c = true) (h : ∀ c ∈ t, IsSolid c) :
    split ("https://" ++ host ++ FilePath.slash :: t) = .ok ⟨"https", host, FilePath.slash :: t⟩ := by
  have hvisible : ∀ c ∈ ("https://" ++ host ++ FilePath.slash :: t : Text), 0x20 < c.val := by
    simp only [List.forall_mem_append, List.forall_mem_cons]
    exact ⟨⟨by decide, fun c hc => (isHostSign_bounds (hhost c hc)).1⟩, by decide, fun c hc => (h c hc).visible⟩
  have hscheme : splitScheme ("https://" ++ host ++ FilePath.slash :: t) =
      (("https" : Text), "//" ++ host ++ FilePath.slash :: t) := rfl
  have hpath : ((FilePath.slash :: t).takeWhile (·.val ≠ 0x23)).takeWhile (·.val ≠ 0x3F) = FilePath.slash :: t := by
    have hnumber : (FilePath.slash :: t).takeWhile (·.val ≠ 0x23) = FilePath.slash :: t :=
      List.takeWhile_eq_self_iff.mpr (List.forall_mem_cons.mpr ⟨by decide, fun c hc => by simpa using (h c hc).number⟩)
    rw [hnumber]
    exact List.takeWhile_eq_self_iff.mpr
      (List.forall_mem_cons.mpr ⟨by decide, fun c hc => by simpa using (h c hc).question⟩)
  have hparameters : parameterSchemes.contains "https" = true := by decide
  unfold split
  rw [cleaned_of_visible hvisible, hscheme]
  dsimp only
  rw [splitAuthority_slashes hhost]
  dsimp only
  rw [checkAuthority_of_hostSigns hhost, hpath, if_pos hparameters, dropParameters_slash h]
  rfl

/-- The file name that is found in an address is one name. -/
theorem fileName?_eq_some {u : Url} {name : Text} (h : u.fileName? = some name) :
    name ≠ [] ∧ FilePath.slash ∉ name ∧ name ≠ "." := by
  unfold fileName? at h
  dsimp only at h
  split at h
  · contradiction
  · next hgiven =>
    obtain rfl := Option.some.inj h
    rcases FilePath.name_ofText_mem (percentDecode u.path) with hempty | ⟨hpiece, hname⟩
    · rw [hempty] at hgiven
      exact absurd rfl hgiven
    · obtain ⟨hne, hpoint⟩ := FilePath.isName_iff.mp hname
      exact ⟨hne, Text.notMem_of_mem_splitAt hpiece, hpoint⟩

/-- A path that spells a name behind a slash has this name as its file name. -/
theorem fileName?_of_spells {name : Text} (hscalar : ∀ c ∈ name, c.IsScalar) (hne : name ≠ [])
    (hslash : FilePath.slash ∉ name) (hpoint : name ≠ ".") (h : Spells escaped (Utf8.encode name))
    (scheme authority : Text) : fileName? ⟨scheme, authority, FilePath.slash :: escaped⟩ = some name := by
  have hascii : ∀ c ∈ FilePath.slash :: escaped, isAscii c = true :=
    List.forall_mem_cons.mpr ⟨by decide, h.isAscii⟩
  have hoctets : unescape (FilePath.slash :: escaped) = Utf8.encode (FilePath.slash :: name) := by
    rw [unescape_cons (by decide), h.unescape_eq]
    rfl
  have hpath : percentDecode (FilePath.slash :: escaped) = FilePath.slash :: name := by
    rw [percentDecode_of_ascii hascii, hoctets]
    exact Utf8.lenient_encode (List.forall_mem_cons.mpr ⟨by decide, hscalar⟩)
  unfold fileName?
  rw [hpath, FilePath.name_ofText_slash_cons (FilePath.isName_iff.mpr ⟨hne, hpoint⟩) hslash]
  exact if_neg (by simpa using hne)

end Url

/-- **File names of addresses are names, and every name is one of them.** If an address can be split, its file name, if
it has one, is not empty, has no slash and is no point. A name with these properties is read from every address of a
host behind which stand a slash and the percent escapes of its octets. -/
theorem fileNameOfUrl_is_name :
    (∀ t u, Url.split t = .ok u → ∃ found, fileNameOfUrl t = .ok found ∧
      ∀ name ∈ found, name ≠ [] ∧ FilePath.slash ∉ name ∧ name ≠ ".") ∧
    ∀ host name escaped : Text, (∀ c ∈ host, Url.isHostSign c = true) → (∀ c ∈ name, c.IsScalar) → name ≠ [] →
      FilePath.slash ∉ name → name ≠ "." → Url.Spells escaped (Utf8.encode name) →
        fileNameOfUrl ("https://" ++ host ++ FilePath.slash :: escaped) = .ok (some name) := by
  constructor
  · intro t u hsplit
    refine ⟨u.fileName?, ?_, fun name hname => Url.fileName?_eq_some hname⟩
    rw [fileNameOfUrl, hsplit]
    rfl
  · intro host name escaped hhost hscalar hne hslash hpoint hspells
    rw [fileNameOfUrl, Url.split_segment hhost hspells.isSolid]
    exact congrArg Except.ok (Url.fileName?_of_spells hscalar hne hslash hpoint hspells _ _)

/-- An escaped slash ends a name like any other one, an escaped point is no name, and a name with delimiters beyond ASCII
and within it is read from its escapes. -/
theorem escapedSegments_named :
    (Url.split "https://h/a%2fb.pdf%2F%2E" = .ok ⟨"https", "h", "/a%2fb.pdf%2F%2E"⟩ ∧
      ∃ name, fileNameOfUrl "https://h/a%2fb.pdf%2F%2E" = .ok (some name) ∧ name = "b.pdf" ∧
        FilePath.slash ∉ name) ∧
    fileNameOfUrl ("https://files.h-1" ++ FilePath.slash :: Url.escape (Utf8.encode "é?文;#.😀")) =
      .ok (some (Text.ofString "é?文;#.😀")) := by
  obtain ⟨hsafe, hread⟩ := fileNameOfUrl_is_name
  have hsplit : Url.split "https://h/a%2fb.pdf%2F%2E" = .ok ⟨"https", "h", "/a%2fb.pdf%2F%2E"⟩ := by decide +kernel
  have hname : fileNameOfUrl "https://h/a%2fb.pdf%2F%2E" = .ok (some (Text.ofString "b.pdf")) := by decide +kernel
  obtain ⟨found, hfound, hnames⟩ := hsafe _ _ hsplit
  cases hname.symm.trans hfound
  refine ⟨⟨hsplit, _, hname, rfl, (hnames _ rfl).2.1⟩, ?_⟩
  exact hread "files.h-1" _ _ (by decide) (by decide) (by decide) (by decide) (by decide) (Url.spells_escape _)

end DocBuild
