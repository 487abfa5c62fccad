import DocBuild.Proofs.Client.Loading
import DocBuild.Proofs.Payload.Held

/-!
# What loading a source uses up

A source comes from one fetch, from one file that is opened, from the stream that was given or from octets that were.
Loading it uses up each of these once, whatever comes of it: a stream is read at most once and is closed afterwards,
nothing is fetched twice, and nothing else is opened.
-/

namespace DocBuild

open Run

variable {around : Surroundings} {session : Session} {connection : Connection}

/-- A stream after it was read, as far as it can be, and closed. -/
def Stream.spent (s : Stream) : Stream :=
  match s.read with
  | .ok (_, left) => left.close
  | .error _ => s.close

/-- What was read is closed. -/
theorem Stream.closed_spent (s : Stream) : s.spent.closed = true := by
  unfold spent
  split <;> rfl

namespace FileInput

/-- The addresses that are fetched for an input. -/
def fetched : FileInput → List Json
  | remote address => [address]
  | text value =>
    match isUrl value with
    | .ok true => [.str value]
    | _ => []
  | _ => []

/-- The stream that is opened for a path, if there is a file. -/
def openedAt (around : Surroundings) (path : FilePath) : List Stream :=
  match around.entry path with
  | .file content => [{ content, origin := .client }]
  | _ => []

/-- The streams that are opened for an input. -/
def opened (around : Surroundings) : FileInput → List Stream
  | text value =>
    match isUrl value with
    | .ok false => openedAt around (.ofText value)
    | _ => []
  | path place => openedAt around place
  | localFile value =>
    match Payload.pathOf value with
    | .ok place => openedAt around place
    | .error _ => []
  | _ => []

/-- The streams after the one that the input is, if it is one, was spent. -/
def spend (streams : List Stream) : FileInput → List Stream
  | stream id _ => streams.modify id Stream.spent
  | _ => streams

/-- From one session to the other an input was used up once: it was fetched once if it is remote, the file at its path
was opened, read and closed once, or the stream that it is was read and closed once. Nothing was handed over. -/
structure SpentOnce (input : FileInput) (connection : Connection) (around : Surroundings) (session after : Session) :
    Prop where
  sent : after.sent = session.sent ++ input.fetched.map fun address => .fetch ⟨address, connection⟩
  streams : after.streams = input.spend session.streams ++ (input.opened around).map Stream.spent
  dispatched : after.dispatched = session.dispatched
  progress : after.progress = session.progress

/-- The stream that an input is and the streams that are opened for it are closed once it was used up. -/
theorem SpentOnce.closed {input : FileInput} {after : Session} (h : input.SpentOnce connection around session after)
    {id : StreamId} (hid : (∃ name, input = .stream id name) ∨ session.streams.length ≤ id) :
    (after.streamAt id).closed = true := by
  rw [Session.streamAt_eq, h.streams]
  rcases hid with ⟨name, rfl⟩ | hnew
  · change (((session.streams.modify id Stream.spent) ++ [])[id]?.getD _).closed = true
    rw [List.append_nil, List.getElem?_modify_eq]
    cases session.streams[id]? with
    | none => rfl
    | some s => exact s.closed_spent
  · have hlength : (input.spend session.streams).length = session.streams.length := by
      unfold spend
      split
      · exact List.length_modify ..
      · rfl
    rw [List.getElem?_append_right (hlength ▸ hnew), List.getElem?_map]
    cases (input.opened around)[id - (input.spend session.streams).length]? with
    | none => rfl
    | some s => exact s.closed_spent

end FileInput

namespace Payload

/-- The streams after the one that a payload comes from, if it comes from one, was spent. -/
def spend (p : Payload) (streams : List Stream) : List Stream :=
  match p.source with
  | .owned _ => streams
  | .stream id => streams.modify id Stream.spent

/-- Reading a payload spends its stream. -/
theorem streams_read (p : Payload) (around : Surroundings) (session : Session) :
    (p.read.start around session).2.streams = p.spend session.streams := by
  unfold read spend
  cases hsource : p.source with
  | owned data => rfl
  | stream id =>
    have hclose (session : Session) : (closeStream id).start around session =
        (.ok (), { session with streams := session.streams.set id (session.streamAt id).close }) := rfl
    dsimp only
    rw [start_bind_pure, start_andFinally fun session => hclose session, hclose]
    refine List.ext_getElem? fun place => ?_
    rw [List.getElem?_modify, Session.streamAt_eq]
    cases hread : (session.streamAt id).read with
    | error fault =>
      rw [start_readStream_of_error hread, List.getElem?_set]
      rw [Session.streamAt_eq] at hread
      grind [Stream.spent]
    | ok found =>
      rw [start_readStream_of_ok hread]
      simp only [List.getElem?_set]
      rw [Session.streamAt_eq] at hread
      grind [Stream.spent]

/-- Reading a payload sends nothing. -/
theorem keeps_sent_read (p : Payload) : p.read.Keeps Session.sent := by
  unfold read
  split
  · exact keeps_pure _
  · refine Keeps.bind ?_ fun data => keeps_pure _
    exact (keeps_readStream (fun _ _ => rfl) _).attempt.bind fun outcome =>
      Keeps.bind (fun _ _ => rfl) fun _ => keeps_ofExcept _

/-- A payload that can be read holds what is read. -/
theorem held_of_read {p owner : Payload} {data : Bytes} (h : (p.read.start around session).1 = .ok (data, owner)) :
    (p.held.start around session).1 = .ok (p.attachment data) := by
  unfold read at h
  cases hsource : p.source with
  | owned own =>
    rw [hsource] at h
    cases h
    rw [start_held_of_owned hsource]
  | stream id =>
    rw [hsource] at h
    dsimp only at h
    rw [start_bind_pure, start_andFinally fun _ => rfl] at h
    rw [start_held_of_stream hsource]
    cases hread : (session.streamAt id).read with
    | error fault =>
      rw [start_readStream_of_error hread] at h
      contradiction
    | ok found =>
      rw [start_readStream_of_ok hread] at h
      cases h
      rfl

/-- The streams that are left once the payload that was obtained, if any, is read. -/
def leftBy (obtained : Except Fault Payload × Session) : List Stream :=
  match obtained.1 with
  | .ok p => p.spend obtained.2.streams
  | .error _ => obtained.2.streams

/-- Whatever comes of an operation, it sends the messages; and once the payload that it gives, if any, is read, the
streams that it opened are there, spent. -/
def Opens (x : Run Payload) (around : Surroundings) (messages : List Sent) (opened : List Stream) : Prop :=
  ∀ session, (x.start around session).2.sent = session.sent ++ messages ∧
    leftBy (x.start around session) = session.streams ++ opened.map Stream.spent

/-- A fault alone opens nothing. -/
theorem opens_throw (fault : Fault) : Opens (throw fault) around [] [] :=
  fun _ => ⟨(List.append_nil _).symm, (List.append_nil _).symm⟩

/-- A payload with its own octets alone opens nothing. -/
theorem opens_pure {p : Payload} {data : Bytes} (h : p.source = .owned data) : Opens (pure p) around [] [] := by
  refine fun session => ⟨(List.append_nil _).symm, ?_⟩
  simp [leftBy, spend, h]

/-- A file is opened if it is there and not locked. -/
theorem opens_openFile (path : FilePath) : Opens (openFile path none) around [] (FileInput.openedAt around path) := by
  intro session
  unfold openFile FileInput.openedAt
  rw [start_bind_of_ok start_surroundings]
  cases around.entry path with
  | file content =>
    have hopen : (openStream { content, origin := .client }).start around session =
        (.ok session.streams.length, { session with streams := session.streams ++ [{ content, origin := .client }] }) :=
      rfl
    rw [start_bind_of_ok hopen]
    refine ⟨(List.append_nil _).symm, ?_⟩
    change (session.streams ++ [_]).modify session.streams.length Stream.spent = _
    rw [List.modify_eq_set_getElem?, List.getElem?_concat_length]
    simp
  | noFile => exact opens_throw _ session
  | unreachable reason => exact opens_throw _ session
  | locked reason => exact opens_throw _ session

/-- A locked file is not opened. -/
theorem opens_openFile_locked (path : FilePath) (reason : Text) : Opens (openFile path (some reason)) around [] [] := by
  intro session
  unfold openFile
  rw [start_bind_of_ok start_surroundings]
  cases around.entry path <;> exact opens_throw _ session

/-- A fetch sends one message, whatever comes of it. -/
theorem sent_fetch (connection : Connection) (address : Json) :
    ((fetch connection address).start around session).2.sent = session.sent ++ [.fetch ⟨address, connection⟩] := by
  have hlog (level : LogLevel) (message : Text) (fields : Members) : (log level message fields).Keeps Session.sent :=
    keeps_log (fun _ _ => rfl) level message fields
  have hexchange (session : Session) : ((exchange connection address).start around session).2.sent =
      session.sent ++ [.fetch ⟨address, connection⟩] := by
    refine view_bind (fun _ => keeps_surroundings.bind fun around => ?_) around session
    split
    · exact keeps_pure _
    · split <;> exact keeps_throw _
    · exact keeps_throw _
  obtain ⟨logged, hstart, log, progress, rfl⟩ := Session.remarks_log .debug
    ("Fetching remote file " ++ address.display) [] around session
  unfold fetch
  rw [start_bind_of_ok hstart]
  refine (view_bind (fun response => ?_) around _).trans (hexchange _)
  split
  · exact (keeps_throw _).bind fun _ => (hlog _ _ _).bind fun _ => (keeps_ofExcept _).bind fun name => keeps_pure _
  · exact (hlog _ _ _).bind fun _ => (keeps_ofExcept _).bind fun name => keeps_pure _

/-- A fetch sends one message and opens nothing. -/
theorem opens_fetch (connection : Connection) (address : Json) :
    Opens (fetch connection address) around [.fetch ⟨address, connection⟩] [] := by
  intro session
  refine ⟨sent_fetch connection address, ?_⟩
  have hstreams := keeps_streams_fetch connection address around session
  rcases hfetch : (fetch connection address).start around session with ⟨fault | p, after⟩
  · rw [hfetch] at hstreams
    simpa [leftBy] using hstreams
  · obtain ⟨data, hdata⟩ := owned_of_fetch hfetch
    rw [hfetch] at hstreams
    simpa [leftBy, spend, hdata] using hstreams

/-- Obtaining an input that is no stream sends its fetch, if it is remote, or opens its file, if it is there. -/
theorem opens_obtain (connection : Connection) {input : FileInput} (hinput : ∀ id name, input ≠ .stream id name) :
    Opens (obtain connection input) around (input.fetched.map fun address => .fetch ⟨address, connection⟩)
      (input.opened around) := by
  cases input with
  | stream id name => exact absurd rfl (hinput id name)
  | text value =>
    simp only [obtain, FileInput.fetched, FileInput.opened]
    cases isUrl value with
    | error e => exact opens_throw _
    | ok remote =>
      cases remote with
      | true => exact opens_fetch connection (.str value)
      | false => exact opens_openFile (.ofText value)
  | path place => exact opens_openFile place
  | locked place reason => exact opens_openFile_locked place reason
  | localFile value =>
    simp only [obtain, FileInput.opened]
    cases pathOf value with
    | error fault => exact opens_throw _
    | ok place => exact opens_openFile place
  | remote address => exact opens_fetch connection address
  | inert => exact opens_throw _
  | plain value => exact opens_throw _
  | _ => exact opens_pure rfl

/-- Obtaining an input sends its fetch, if it is remote; and once the payload is read, the stream that the input is or
the one that was opened for it is spent. -/
theorem spends_obtain (connection : Connection) (input : FileInput) (around : Surroundings) (session : Session) :
    ((obtain connection input).start around session).2.sent =
      session.sent ++ input.fetched.map (fun address => .fetch ⟨address, connection⟩) ∧
    leftBy ((obtain connection input).start around session) =
      input.spend session.streams ++ (input.opened around).map Stream.spent := by
  by_cases hstream : ∃ id name, input = .stream id name
  · obtain ⟨id, name, rfl⟩ := hstream
    exact ⟨(List.append_nil _).symm, (List.append_nil _).symm⟩
  · have hspend : input.spend session.streams = session.streams := by
      cases input with
      | stream id name => exact absurd ⟨id, name, rfl⟩ hstream
      | _ => rfl
    rw [hspend]
    exact opens_obtain connection (fun id name heq => hstream ⟨id, name, heq⟩) session

end Payload

namespace Client

/-- After the source was obtained loading it reads it, and changes nothing else but the log. -/
theorem remarks_load {c : Client} {file : FileInput} {p : Payload} {obtained : Session}
    (h : (Payload.obtain c.connection file).start around session = (.ok p, obtained)) :
    (p.read.start around obtained).2.Remarks ((c.load file).start around session).2 := by
  unfold load
  rw [start_bind_of_ok h]
  rcases hread : p.read.start around obtained with ⟨fault | ⟨data, owner⟩, reached⟩
  · have hcount : p.countPages.start around obtained = (.error fault, reached) := start_bind_of_error hread _
    rw [start_bind_of_error hcount]
    exact .refl reached
  · obtain rfl := Payload.eq_owning_of_read hread
    have hcount := Payload.start_countPages hread
    cases hpages : Pdf.countPages data (p.owning data).filename with
    | error fault =>
      rw [hpages] at hcount
      rw [start_bind_of_error hcount]
      exact .refl reached
    | ok count =>
      rw [hpages] at hcount
      have hagain : (p.owning data).read.start around reached = (.ok (data, p.owning data), reached) := rfl
      obtain ⟨logged, hlog, hremarks⟩ := Session.remarks_log .debug
        ((p.owning data).filename.display ++ " has " ++ Text.ofNat count ++ " pages") [] around reached
      rw [start_bind_of_ok hcount]
      dsimp only
      rw [start_bind_of_ok hagain]
      dsimp only
      rw [start_bind_of_ok hlog]
      exact hremarks

/-- A source that was loaded has the name, the media type and the octets that the file holds. -/
theorem sample_of_load {c : Client} {file : FileInput} {source : Source} {loaded : Session}
    (h : (c.load file).start around session = (.ok source, loaded)) :
    ((Payload.sample c.connection file).start around session).1 =
      .ok ⟨source.filename, source.contentType, source.data⟩ := by
  obtain ⟨p, obtained, hobtain, hread, hname, htype, -⟩ := start_load_ok h
  unfold Payload.sample
  rw [start_bind_of_ok hobtain, Payload.held_of_read hread, hname, htype]
  rfl

/-- Loading a source uses it up once, whatever comes of it. -/
theorem load_spends (c : Client) (file : FileInput) (around : Surroundings) (session : Session) :
    file.SpentOnce c.connection around session ((c.load file).start around session).2 := by
  have hquiet := c.quiet_load file
  have hobtained := Payload.spends_obtain c.connection file around session
  suffices hload : ((c.load file).start around session).2.sent =
        ((Payload.obtain c.connection file).start around session).2.sent ∧
      ((c.load file).start around session).2.streams =
        Payload.leftBy ((Payload.obtain c.connection file).start around session) from
    ⟨hload.1.trans hobtained.1, hload.2.trans hobtained.2, hquiet.dispatched around session,
      hquiet.progress around session⟩
  rcases hobtain : (Payload.obtain c.connection file).start around session with ⟨fault | p, obtained⟩
  · have hload : (c.load file).start around session = (.error fault, obtained) := start_bind_of_error hobtain _
    rw [hload]
    exact ⟨rfl, rfl⟩
  · obtain ⟨log, progress, hload⟩ := remarks_load hobtain
    rw [hload]
    exact ⟨p.keeps_sent_read around obtained, p.streams_read around obtained⟩

end Client

end DocBuild
