import DocBuild.Client.Pages
import DocBuild.Proofs.Client.Sending

/-!
# Loading a source

A source is read and its pages are counted without anything being handed to a transport. It has the octets of what was
obtained for the file and the pages that these declare. What was loaded can be obtained again.
-/

namespace DocBuild

open Run

variable {around : Surroundings} {session loaded : Session}

/-- Reading a stream is quiet. -/
theorem Run.quiet_readStream (id : StreamId) : (readStream id).Quiet := keeps_readStream (fun _ _ => rfl) id

/-- Reading the octets of a payload is quiet. -/
theorem Payload.quiet_read (p : Payload) : p.read.Quiet := by
  unfold Payload.read
  split
  · exact keeps_pure _
  · refine Keeps.bind ?_ fun data => keeps_pure _
    exact (quiet_readStream _).attempt.bind fun outcome => (quiet_closeStream _).bind fun _ => keeps_ofExcept _

/-- A payload that was read owns its octets. -/
theorem Payload.eq_owning_of_read {p owner : Payload} {data : Bytes}
    (h : p.read.start around session = (.ok (data, owner), loaded)) : owner = p.owning data := by
  unfold read at h
  split at h
  · next hsource =>
    cases h
    cases p
    cases hsource
    rfl
  · obtain ⟨octets, reached, -, hrest⟩ := exists_of_start_bind h
    cases hrest
    rfl

/-- Counting pages counts those that are declared by what was read. -/
theorem Payload.start_countPages {p owner : Payload} {data : Bytes}
    (h : p.read.start around session = (.ok (data, owner), loaded)) :
    p.countPages.start around session = ((Pdf.countPages data owner.filename).map (·, owner), loaded) := by
  unfold countPages
  rw [start_bind_of_ok h, start_bind_pure, start_ofExcept]

/-- Pages that are counted are those that the octets declare. -/
theorem Payload.start_countPages_ok {p owner : Payload} {count : Nat}
    (h : p.countPages.start around session = (.ok (count, owner), loaded)) :
    ∃ data, (p.read.start around session).1 = .ok (data, owner) ∧ Pdf.pageCount data = .ok count := by
  obtain ⟨⟨data, reader⟩, reached, hread, h⟩ := exists_of_start_bind h
  obtain ⟨declared, counted, hcount, h⟩ := exists_of_start_bind h
  cases h
  rw [start_ofExcept] at hcount
  have hdeclared : Pdf.countPages data owner.filename = .ok count := congrArg Prod.fst hcount
  unfold Pdf.countPages at hdeclared
  refine ⟨data, congrArg Prod.fst hread, ?_⟩
  cases hpages : Pdf.pageCount data with
  | ok pages =>
    rw [hpages] at hdeclared
    cases hdeclared
    rfl
  | error e =>
    rw [hpages] at hdeclared
    contradiction

namespace Client

variable {α β : Type}

/-- Loading a source is quiet. -/
theorem quiet_load (c : Client) (file : FileInput) : (c.load file).Quiet := by
  have hcount (payload : Payload) : payload.countPages.Quiet :=
    payload.quiet_read.bind fun read => (keeps_ofExcept _).bind fun count => keeps_pure _
  exact (Payload.quiet_obtain _ _).bind fun payload => (hcount payload).bind fun counted =>
    counted.2.quiet_read.bind fun read => (quiet_log _ _ _).bind fun _ => keeps_pure _

/-- A source that was loaded has the name and the octets of what was obtained for the file, and the pages that these
octets declare. -/
theorem start_load_ok {c : Client} {file : FileInput} {source : Source}
    (h : (c.load file).start around session = (.ok source, loaded)) :
    ∃ payload obtained, (Payload.obtain c.connection file).start around session = (.ok payload, obtained) ∧
      (payload.read.start around obtained).1 = .ok (source.data, payload.owning source.data) ∧
      source.filename = payload.filename ∧ source.contentType = payload.contentType ∧
      Pdf.pageCount source.data = .ok source.pageCount := by
  obtain ⟨payload, obtained, hobtain, h⟩ := exists_of_start_bind h
  obtain ⟨⟨count, owner⟩, counted, hcount, h⟩ := exists_of_start_bind h
  obtain ⟨data, hread, hpages⟩ := Payload.start_countPages_ok hcount
  obtain rfl := Payload.eq_owning_of_read (Prod.ext hread rfl)
  cases h
  exact ⟨payload, obtained, hobtain, hread, rfl, rfl, hpages⟩

/-- Outcomes of items come out in order, up to the first failure. -/
theorem start_each (f : α → Except Fault β) (items : List α) :
    (each (fun item => Run.ofExcept (f item)) items).start around session = (items.mapM f, session) := by
  induction items with
  | nil => rfl
  | cons item rest ih =>
    unfold each
    rw [List.mapM_cons]
    cases hitem : f item with
    | error fault => rfl
    | ok value =>
      have hfirst : (Run.ofExcept (.ok value : Except Fault β)).start around session = (.ok value, session) := rfl
      rw [start_bind_of_ok hfirst, start_bind_pure, ih]
      rfl

/-- Octets that declare three pages. -/
def threePages : Bytes := "1 0 obj/Type/Catalog/Pages 2 0 R endobj 2 0 obj/Count 3 endobj"

end Client

end DocBuild
