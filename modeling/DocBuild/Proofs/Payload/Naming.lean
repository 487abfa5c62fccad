import Mathlib.Tactic.SplitIfs
import DocBuild.Payload.Obtain
import DocBuild.Proofs.FilePath.Name
import DocBuild.Proofs.Session.Handing

/-!
# The names of payloads

A payload is named after the last name of a path or an address, after what the caller says, or after what the input
is. Where a file is found its path has a last name, and where an address or a caller gives no name another one takes
its place. A stream is the exception: another name takes the place of the name that it bears only if that is empty or
no text. If it is a text that names nothing, for it has only slashes and points, the payload is left without a name.
-/

namespace DocBuild

open Run

variable {around : Surroundings} {session after : Session} {connection : Connection} {p : Payload}

/-- What is found to be a file has a name: the places without one, where paths start from, are directories. -/
def Surroundings.FilesAreNamed (around : Surroundings) : Prop :=
  ∀ path content, around.entry path = .file content → path.name ≠ []

namespace FileTree

variable {tree : FileTree} {path : FilePath} {content : Bytes} {names rest : List Text} {place : Place}

/-- Everything in a tree stands under a name. -/
def Named (tree : FileTree) : Prop := ∀ e ∈ tree, e.1.getLast?.getD [] ≠ []

instance (tree : FileTree) : Decidable tree.Named := inferInstanceAs (Decidable (∀ e ∈ tree, _))

/-- Every character of a name that has octets has some. -/
theorem pointOctets?_ne_nil (c : CodePoint) : pointOctets? c ≠ some [] := by
  unfold pointOctets? Utf8.encodePoint
  dsimp only
  split_ifs <;> simp

/-- Only the empty text is without octets for the system. -/
theorem eq_nil_of_octets? {t : Text} (h : octets? t = some []) : t = [] := by
  cases t with
  | nil => rfl
  | cons c rest =>
    unfold octets? at h
    rw [List.mapM_cons] at h
    cases hfirst : pointOctets? c with
    | none => simp [hfirst] at h
    | some first =>
      have hnone : first = [] := by
        cases hrest : rest.mapM pointOctets? with
        | none => simp [hfirst, hrest] at h
        | some others =>
          simp only [hfirst, hrest, Option.bind_eq_bind, Option.bind_some, Option.pure_def, Option.map_some,
            Option.some.injEq, List.flatten_cons, List.append_eq_nil_iff] at h
          exact h.1
      exact absurd (hnone ▸ hfirst) (pointOctets?_ne_nil c)

/-- Where all has a name, nothing is a file at a place without one. -/
theorem Named.node?_ne (h : tree.Named) (hnames : names.getLast?.getD [] = []) :
    tree.node? names ≠ some (.file content) := by
  unfold node?
  dsimp only
  split
  · next e hfound =>
    have hplace : e.1.map octets? = names.map octets? := by simpa using List.find?_some hfound
    have hlast := congrArg List.getLast? hplace
    rw [List.getLast?_map, List.getLast?_map] at hlast
    refine absurd ?_ (h e (List.mem_of_find?_eq_some hfound))
    cases he : e.1.getLast? with
    | none => rfl
    | some last =>
      cases hn : names.getLast? with
      | none => simp [he, hn] at hlast
      | some name =>
        obtain rfl : name = [] := by simpa [hn] using hnames
        rw [he, hn] at hlast
        exact eq_nil_of_octets? (Option.some.inj hlast)
  · split <;> simp

/-- A last name is that of what stands behind it, unless nothing does. -/
theorem getLast?_cons_ne_nil {name : Text} (h : rest.getLast?.getD [] ≠ [] ∨ rest = [] ∧ name ≠ []) :
    (name :: rest).getLast?.getD [] ≠ [] := by
  rw [List.getLast?_cons, Option.getD_some]
  rcases h with h | ⟨rfl, h⟩
  · cases hlast : rest.getLast? with
    | none => simp [hlast] at h
    | some last => simpa [hlast] using h
  · exact h

/-- A walk that comes to a file has gone under a name, unless it was there already. -/
theorem Named.of_walk (h : tree.Named) (hwalk : tree.walk path place rest = .file content) :
    rest.getLast?.getD [] ≠ [] ∨
      rest = [] ∧ ∃ names, place = .inside names ∧ tree.node? names = some (.file content) := by
  induction rest generalizing place with
  | nil =>
    cases place with
    | outside => cases hwalk
    | inside names =>
      rw [walk] at hwalk
      split at hwalk
      · next found hnode =>
        cases hwalk
        exact Or.inr ⟨rfl, names, rfl, hnode⟩
      · cases hwalk
  | cons name rest ih =>
    refine Or.inl (getLast?_cons_ne_nil ?_)
    have hparent (h : isParent name = true) : name ≠ [] := by
      rintro rfl
      exact absurd h (by decide)
    cases place with
    | outside =>
      rw [walk] at hwalk
      split_ifs at hwalk with hname hlong
      · exact (ih hwalk).imp_right fun hnil => ⟨hnil.1, hparent hname⟩
      · cases hwalk
    | inside names =>
      rw [walk] at hwalk
      split_ifs at hwalk with hdirectory hname hlong
      · exact (ih hwalk).imp_right fun hnil => ⟨hnil.1, hparent hname⟩
      · cases hwalk
      · refine (ih hwalk).imp_right fun ⟨hnil, names', hplace, hnode⟩ => ⟨hnil, ?_⟩
        rintro rfl
        cases hplace
        exact h.node?_ne (by simp) hnode

/-- What is found in a tree where all has a name is as it should be. -/
theorem Named.filesAreNamed (h : tree.Named) (around : Surroundings) :
    { around with entry := tree.entry }.FilesAreNamed := by
  intro path content hentry
  change tree.entry path = .file content at hentry
  unfold entry at hentry
  split_ifs at hentry with hunnameable hlong hhere
  · cases hentry
  · rcases h.of_walk hentry with hname | ⟨hnil, names, hplace, hnode⟩
    · exact hname
    · cases hplace
      exact absurd hnode (h.node?_ne rfl)
  · rcases h.of_walk hentry with hname | ⟨hnil, names, hplace, -⟩
    · exact hname
    · cases hplace

end FileTree

namespace Payload

/-- Another name takes the place of one that does not count as given. -/
theorem isGiven_nameOr {other : Text} (hother : other ≠ []) (name : Json) : (nameOr other name).isGiven = true := by
  unfold nameOr
  split
  · assumption
  · simpa [Json.isGiven] using hother

/-- The name of a stream is empty exactly if it bears a text as its name in which nothing between slashes is a name. -/
theorem nameOfStream_eq_nil_iff {name : Option Json} :
    nameOfStream name = [] ↔ ∃ t : Text, name = some (.str t) ∧ t ≠ [] ∧
      ∀ piece ∈ Text.splitAt FilePath.slash t, piece = [] ∨ piece = "." := by
  have hother : streamName ≠ [] := by decide
  unfold nameOfStream
  split
  · simp [hother]
  · next t hne =>
    rw [FilePath.name_ofText_eq_nil_iff]
    constructor
    · intro h
      exact ⟨t, rfl, hne, h⟩
    · rintro ⟨_, heq, -, h⟩
      cases heq
      exact h
  · next hno =>
    refine iff_of_false hother ?_
    rintro ⟨t, heq, -, -⟩
    exact hno t heq

/-- A file that was opened has the last name of its path. -/
theorem filename_of_openFile {path : FilePath} {lock : Option Text}
    (h : (openFile path lock).start around session = (.ok p, after)) :
    p.filename = .str path.name ∧ ∃ content, around.entry path = .file content := by
  unfold openFile at h
  rw [start_bind_of_ok start_surroundings] at h
  split at h
  · cases h
  · cases h
  · cases h
  · cases h
  · next content hentry =>
    cases h
    exact ⟨rfl, content, hentry⟩

/-- A file that was fetched has the name in its address, or another one. -/
theorem filename_of_fetch {address : Json} (h : (fetch connection address).start around session = (.ok p, after)) :
    ∃ name, p.filename = nameOr downloadName name := by
  unfold fetch at h
  obtain ⟨_, _, -, h⟩ := exists_of_start_bind h
  obtain ⟨response, _, -, h⟩ := exists_of_start_bind h
  split at h
  · cases h
  · obtain ⟨_, _, -, h⟩ := exists_of_start_bind h
    obtain ⟨name, _, -, h⟩ := exists_of_start_bind h
    cases h
    exact ⟨_, rfl⟩

/-- A file that was opened has a name, if files have names. -/
theorem isGiven_of_openFile {path : FilePath} {lock : Option Text} (hfiles : around.FilesAreNamed)
    (h : (openFile path lock).start around session = (.ok p, after)) : p.filename.isGiven = true := by
  obtain ⟨hname, content, hentry⟩ := filename_of_openFile h
  simpa [hname, Json.isGiven] using hfiles path content hentry

/-- A file that was fetched has a name. -/
theorem isGiven_of_fetch {address : Json} (h : (fetch connection address).start around session = (.ok p, after)) :
    p.filename.isGiven = true := by
  obtain ⟨name, hname⟩ := filename_of_fetch h
  exact hname ▸ isGiven_nameOr (by decide) name

/-- Whatever is obtained of an input that is no stream has a name, if files have names. -/
theorem isGiven_of_obtain {input : FileInput} (hfiles : around.FilesAreNamed)
    (hinput : ∀ id name, input ≠ .stream id name)
    (hobtain : (obtain connection input).start around session = (.ok p, after)) : p.filename.isGiven = true := by
  cases input with
  | stream id name => exact absurd rfl (hinput id name)
  | text value =>
    obtain ⟨remote, _, -, h⟩ := exists_of_start_bind hobtain
    split at h
    · exact isGiven_of_fetch h
    · exact isGiven_of_openFile hfiles h
  | path path => exact isGiven_of_openFile hfiles hobtain
  | locked path reason => exact isGiven_of_openFile hfiles hobtain
  | localFile value =>
    obtain ⟨path, _, -, h⟩ := exists_of_start_bind hobtain
    exact isGiven_of_openFile hfiles h
  | remote address => exact isGiven_of_fetch hobtain
  | buffer data filename contentType =>
    cases hobtain
    exact isGiven_nameOr (by decide) filename
  | mutableBuffer data filename contentType =>
    cases hobtain
    exact isGiven_nameOr (by decide) filename
  | inert => cases hobtain
  | plain value => cases hobtain
  | _ =>
    cases hobtain
    rfl

/-- **Every payload that is obtained has a name, unless it is a stream that bears a name in which nothing is one**:
the name is missing exactly if the input is a stream whose name is a text that is not empty, and between whose slashes
there is nothing but empty pieces and points. -/
theorem obtain_unnamed_iff {input : FileInput} (hfiles : around.FilesAreNamed)
    (hobtain : (obtain connection input).start around session = (.ok p, after)) :
    p.filename.isGiven = false ↔ ∃ (id : StreamId) (t : Text), input = .stream id (some (.str t)) ∧ t ≠ [] ∧
      ∀ piece ∈ Text.splitAt FilePath.slash t, piece = [] ∨ piece = "." := by
  by_cases hstream : ∃ id name, input = .stream id name
  · obtain ⟨id, name, rfl⟩ := hstream
    cases hobtain
    have hgiven : (Json.str (nameOfStream name)).isGiven = false ↔ nameOfStream name = [] := by simp [Json.isGiven]
    simp only [hgiven, nameOfStream_eq_nil_iff, FileInput.stream.injEq, and_assoc, exists_and_left, exists_eq_left']
  · have hgiven := isGiven_of_obtain hfiles (fun id name heq => hstream ⟨id, name, heq⟩) hobtain
    refine iff_of_false (by simp [hgiven]) ?_
    rintro ⟨id, t, heq, -⟩
    exact hstream ⟨id, _, heq⟩

/-- Surroundings with one file. -/
def oneFile : Surroundings where
  entry := FileTree.entry [(["a.pdf"], .file "x")]
  web _ := .error (.ofForeign .runtime "offline")
  service _ _ := .error (.ofForeign .runtime "offline")

/-- In these surroundings files have names. -/
theorem filesAreNamed_oneFile : oneFile.FilesAreNamed := by
  have hnamed : FileTree.Named [(["a.pdf"], .file "x")] := by decide
  exact hnamed.filesAreNamed oneFile

/-- A file in the working directory has the name that ends its path. -/
theorem localFile_named :
    oneFile.FilesAreNamed ∧ ∃ p after, (obtain .own (.text "./a.pdf")).start oneFile {} = (.ok p, after) ∧
      p.filename.isGiven = true := by
  obtain ⟨p, after, hobtain⟩ : ∃ p after, (obtain .own (.text "./a.pdf")).start oneFile {} = (.ok p, after) :=
    ⟨_, _, rfl⟩
  refine ⟨filesAreNamed_oneFile, p, after, hobtain, ?_⟩
  rw [← Bool.not_eq_false, obtain_unnamed_iff filesAreNamed_oneFile hobtain]
  rintro ⟨id, t, heq, -⟩
  contradiction

/-- A stream that bears a slash as its name is left without one. -/
theorem slashStream_unnamed :
    oneFile.FilesAreNamed ∧
      ∃ p after, (obtain .own (.stream 0 (some (.str "/")))).start oneFile { streams := [{ content := "x" }] } =
        (.ok p, after) ∧ p.filename = .str [] :=
  ⟨filesAreNamed_oneFile, _, _, rfl, rfl⟩

end Payload

end DocBuild
