import DocBuild.Proofs.Payload.Obtainable

/-!
# What payloads hold

A payload holds its name, its media type and the octets that it owns or that its stream still has. Obtaining files only
adds streams, so a payload keeps what it held when it was obtained: in whatever order inputs are obtained together, each
payload holds what the input gives if it is obtained alone. Streams that callers give are different ones, and the
streams that are opened are new, so no two payloads come from the same stream.
-/

namespace DocBuild

open Run

variable {around : Surroundings} {session later after : Session} {connection : Connection}

/-- The streams among inputs are there, and no stream is given twice. -/
structure Session.Lends (session : Session) (inputs : List FileInput) : Prop where
  there : ∀ id name, FileInput.stream id name ∈ inputs → id < session.streams.length
  once : ∀ (i j : Nat) id name name', inputs[i]? = some (.stream id name) → inputs[j]? = some (.stream id name') → i = j

/-- What is there stays there if streams are only added. -/
theorem Session.Lends.of_prefix {inputs : List FileInput} (h : session.Lends inputs)
    (hgrows : session.streams <+: later.streams) : later.Lends inputs :=
  ⟨fun id name hid => Nat.lt_of_lt_of_le (h.there id name hid) hgrows.length_le, h.once⟩

/-- A stream that is there is the same one if streams are only added. -/
theorem Session.getElem?_of_prefix (hgrows : session.streams <+: later.streams) {id : StreamId}
    (h : id < session.streams.length) : later.streams[id]? = session.streams[id]? := by
  obtain ⟨more, hmore⟩ := hgrows
  rw [← hmore, List.getElem?_append_left h]

namespace Payload

/-- What a payload holds now. -/
def held (p : Payload) : Run Attachment := do
  let data ← p.peek
  return p.attachment data

/-- What an input holds that is obtained alone. -/
def sample (connection : Connection) (input : FileInput) : Run Attachment := do
  let payload ← obtain connection input
  payload.held

/-- Two payloads do not come from the same stream. -/
def Apart (p q : Payload) : Prop := ∀ id, p.source = .stream id → q.source ≠ .stream id

/-- What a payload with its own octets holds does not depend on the session. -/
theorem start_held_of_owned {p : Payload} {data : Bytes} (h : p.source = .owned data) :
    p.held.start around session = (.ok (p.attachment data), session) := by
  unfold held peek
  rw [h]
  rfl

/-- What a payload from a stream holds is what can be read from the stream. -/
theorem start_held_of_stream {p : Payload} {id : StreamId} (h : p.source = .stream id) :
    (p.held.start around session).1 = (session.streamAt id).read.map fun found => p.attachment found.1 := by
  have hpeek : p.peek = readStream id := by
    unfold peek
    rw [h]
  unfold held
  rw [start_bind_pure, hpeek]
  cases hread : (session.streamAt id).read with
  | error fault =>
    rw [start_readStream_of_error hread]
    rfl
  | ok found =>
    rw [start_readStream_of_ok hread]
    rfl

/-- What a payload holds depends only on the stream that it comes from. -/
theorem held_congr {p : Payload}
    (h : ∀ id, p.source = .stream id → later.streams[id]? = session.streams[id]?) :
    (p.held.start around later).1 = (p.held.start around session).1 := by
  cases hsource : p.source with
  | owned data => rw [start_held_of_owned hsource, start_held_of_owned hsource]
  | stream id =>
    rw [start_held_of_stream hsource, start_held_of_stream hsource, Session.streamAt_eq, Session.streamAt_eq,
      h id hsource]

/-- What an operation yields in every session: a fault or a payload with its own octets, without a change of the
streams, or a payload from a new stream, always with the same content. -/
inductive Yields (around : Surroundings) (x : Run Payload) : Prop where
  | refused (fault : Fault)
      (h : ∀ session, ∃ after, x.start around session = (.error fault, after) ∧ after.streams = session.streams)
  | owned (p : Payload) (data : Bytes) (hsource : p.source = .owned data)
      (h : ∀ session, ∃ after, x.start around session = (.ok p, after) ∧ after.streams = session.streams)
  | opened (filename : Json) (content : Bytes)
      (h : ∀ session : Session, ∃ after,
        x.start around session = (.ok { source := .stream session.streams.length, filename }, after) ∧
          after.streams = session.streams ++ [{ content, origin := .client }])

/-- A fault alone is yielded. -/
theorem yields_throw (fault : Fault) : Yields around (throw fault) := .refused fault fun session => ⟨session, rfl, rfl⟩

/-- A payload with its own octets is yielded. -/
theorem yields_pure {p : Payload} {data : Bytes} (h : p.source = .owned data) : Yields around (pure p) :=
  .owned p data h fun session => ⟨session, rfl, rfl⟩

/-- What is yielded for every value is yielded for the value of an outcome. -/
theorem yields_ofExcept_bind {α : Type} (outcome : Except Fault α) {k : α → Run Payload}
    (h : ∀ a, Yields around (k a)) : Yields around (Run.ofExcept outcome >>= k) := by
  cases outcome with
  | error fault => exact .refused fault fun session => ⟨session, rfl, rfl⟩
  | ok a => exact h a

/-- What is yielded for the surroundings is yielded for them when they are looked at. -/
theorem yields_surroundings_bind {k : Surroundings → Run Payload} (h : Yields around (k around)) :
    Yields around (surroundings >>= k) := by
  have hstart (session : Session) : (surroundings >>= k).start around session = (k around).start around session :=
    start_bind_of_ok start_surroundings k
  rcases h with ⟨fault, h⟩ | ⟨p, data, hsource, h⟩ | ⟨filename, content, h⟩
  · exact .refused fault fun session => hstart session ▸ h session
  · exact .owned p data hsource fun session => hstart session ▸ h session
  · exact .opened filename content fun session => hstart session ▸ h session

/-- An opened file is a new stream with what is at the path. -/
theorem yields_openFile (path : FilePath) (lock : Option Text) (around : Surroundings) :
    Yields around (openFile path lock) := by
  refine yields_surroundings_bind ?_
  cases around.entry path with
  | noFile => exact yields_throw _
  | unreachable reason => exact yields_throw _
  | locked reason => exact yields_throw _
  | file content =>
    cases lock with
    | some reason => exact yields_throw _
    | none => exact .opened (.str path.name) content fun session => ⟨_, rfl, rfl⟩

/-- What is fetched owns its octets. -/
theorem owned_of_fetch {address : Json} {p : Payload}
    (h : (fetch connection address).start around session = (.ok p, after)) : ∃ data, p.source = .owned data := by
  unfold fetch at h
  obtain ⟨_, _, -, h⟩ := exists_of_start_bind h
  obtain ⟨response, _, -, h⟩ := exists_of_start_bind h
  split at h
  · cases h
  · obtain ⟨_, _, -, h⟩ := exists_of_start_bind h
    obtain ⟨name, _, -, h⟩ := exists_of_start_bind h
    cases h
    exact ⟨response.body, rfl⟩

/-- Fetching adds no stream. -/
theorem keeps_streams_fetch (connection : Connection) (address : Json) :
    (fetch connection address).Keeps Session.streams :=
  keeps_fetch (fun _ => keeps_modify fun _ => rfl) (keeps_log fun _ _ => rfl) connection address

/-- What is fetched owns its octets. -/
theorem yields_fetch (connection : Connection) (address : Json) (around : Surroundings) :
    Yields around (fetch connection address) := by
  have hfixed := fixed_fetch connection address
  have hkeeps := keeps_streams_fetch connection address around
  rcases hstart : (fetch connection address).start around {} with ⟨fault | p, after⟩
  · exact .refused fault fun session => ⟨_, hfixed.start_eq hstart session, hkeeps session⟩
  · obtain ⟨data, hdata⟩ := owned_of_fetch hstart
    exact .owned p data hdata fun session => ⟨_, hfixed.start_eq hstart session, hkeeps session⟩

/-- Every input but a stream yields the same in every session. -/
theorem yields_obtain (connection : Connection) {input : FileInput} (hinput : ∀ id name, input ≠ .stream id name)
    (around : Surroundings) : Yields around (obtain connection input) := by
  cases input with
  | stream id name => exact absurd rfl (hinput id name)
  | text value =>
    refine yields_ofExcept_bind _ fun remote => ?_
    split
    · exact yields_fetch connection _ around
    · exact yields_openFile _ _ around
  | path path => exact yields_openFile _ _ around
  | locked path reason => exact yields_openFile _ _ around
  | localFile path => exact yields_ofExcept_bind _ fun path => yields_openFile _ _ around
  | remote address => exact yields_fetch connection address around
  | inert => exact yields_throw _
  | plain value => exact yields_throw _
  | _ => exact yields_pure rfl

/-- An input is a stream, or it yields the same in every session. -/
theorem stream_or_yields (connection : Connection) (input : FileInput) (around : Surroundings) :
    (∃ id name, input = .stream id name) ∨ Yields around (obtain connection input) := by
  by_cases hstream : ∃ id name, input = .stream id name
  · exact Or.inl hstream
  · exact Or.inr (yields_obtain connection (fun id name heq => hstream ⟨id, name, heq⟩) around)

/-- What an input holds that is obtained alone depends only on the stream that it is. -/
theorem sample_congr {input : FileInput}
    (h : ∀ id name, input = .stream id name → later.streams[id]? = session.streams[id]?) :
    ((sample connection input).start around later).1 = ((sample connection input).start around session).1 := by
  rcases stream_or_yields connection input around with
    ⟨id, name, rfl⟩ | ⟨fault, hfault⟩ | ⟨p, data, hsource, hp⟩ | ⟨filename, content, hopened⟩
  · exact held_congr (p := { source := .stream id, filename := .str (nameOfStream name) }) fun id' hid' => by
      cases hid'
      exact h id name rfl
  · obtain ⟨_, hstart, -⟩ := hfault session
    obtain ⟨_, hstart', -⟩ := hfault later
    unfold sample
    rw [start_bind_of_error hstart, start_bind_of_error hstart']
  · obtain ⟨_, hstart, -⟩ := hp session
    obtain ⟨_, hstart', -⟩ := hp later
    unfold sample
    rw [start_bind_of_ok hstart, start_bind_of_ok hstart', start_held_of_owned hsource, start_held_of_owned hsource]
  · have hheld (session : Session) : ((sample connection input).start around session).1 =
        .ok ⟨filename, .null, content⟩ := by
      obtain ⟨after, hstart, hafter⟩ := hopened session
      unfold sample
      rw [start_bind_of_ok hstart, start_held_of_stream rfl, Session.streamAt_eq, hafter, List.getElem?_concat_length]
      rfl
    exact (hheld later).trans (hheld session).symm

/-- Obtaining an input only adds streams. A payload comes from its own octets, from the stream that the input is, or
from one that was added. -/
theorem streams_obtain (connection : Connection) (input : FileInput) (around : Surroundings) (session : Session) :
    session.streams <+: ((obtain connection input).start around session).2.streams ∧
    ∀ p, ((obtain connection input).start around session).1 = .ok p → ∀ id, p.source = .stream id →
      (∃ name, input = .stream id name) ∨ session.streams.length ≤ id ∧
        id < ((obtain connection input).start around session).2.streams.length := by
  rcases stream_or_yields connection input around with
    ⟨id, name, rfl⟩ | ⟨fault, hfault⟩ | ⟨p, data, hsource, hp⟩ | ⟨filename, content, hopened⟩
  · refine ⟨List.prefix_rfl, fun p hp id' hid' => ?_⟩
    cases hp
    cases hid'
    exact Or.inl ⟨name, rfl⟩
  · obtain ⟨after, hstart, hafter⟩ := hfault session
    rw [hstart]
    exact ⟨hafter ▸ List.prefix_rfl, fun p hp => by cases hp⟩
  · obtain ⟨after, hstart, hafter⟩ := hp session
    rw [hstart]
    refine ⟨hafter ▸ List.prefix_rfl, fun q hq id hid => ?_⟩
    cases hq
    cases hsource.symm.trans hid
  · obtain ⟨after, hstart, hafter⟩ := hopened session
    rw [hstart]
    refine ⟨hafter ▸ List.prefix_append _ _, fun q hq id hid => Or.inr ?_⟩
    cases hq
    cases hid
    simp [hafter]

/-- A payload that was obtained holds what the input holds alone, and still does if streams are added. -/
theorem held_of_obtain {input : FileInput} {p : Payload} (hlends : ∀ id name, input = .stream id name →
      id < session.streams.length) (h : (obtain connection input).start around session = (.ok p, after))
    (hgrows : after.streams <+: later.streams) :
    (p.held.start around later).1 = ((sample connection input).start around session).1 := by
  obtain ⟨hfirst, hsource⟩ := streams_obtain connection input around session
  rw [h] at hfirst hsource
  rw [sample, start_bind_of_ok h]
  refine held_congr fun id hid => Session.getElem?_of_prefix hgrows ?_
  rcases hsource p rfl id hid with ⟨name, hname⟩ | ⟨-, hin⟩
  · exact Nat.lt_of_lt_of_le (hlends id name hname) hfirst.length_le
  · exact hin

/-- What holds of attempts that were made one after the other: they only added streams; each payload holds what its
input holds alone, and comes from its own octets, from the stream that the input is or from one that was added; and no
two payloads come from the same stream. -/
structure Attempted (connection : Connection) (inputs : List FileInput) (around : Surroundings) (session : Session)
    (attempts : List (Nat × Except Fault Payload)) (after : Session) : Prop where
  grows : session.streams <+: after.streams
  held : ∀ place outcome, (place, outcome) ∈ attempts → ∃ input, inputs[place]? = some input ∧
    ∀ p, outcome = .ok p → (p.held.start around after).1 = ((sample connection input).start around session).1
  source : ∀ place p, (place, .ok p) ∈ attempts → ∀ id, p.source = .stream id →
    (∃ name, inputs[place]? = some (.stream id name)) ∨ session.streams.length ≤ id
  apart : attempts.Pairwise fun a b => ∀ p q, a.2 = .ok p → b.2 = .ok q → p.Apart q

/-- Attempts in an order that names no place twice, with streams that are lent, are as they should be. -/
theorem attempted {inputs : List FileInput} (order : List Nat) (hnodup : order.Nodup) (hlends : session.Lends inputs) :
    ∃ attempts after, (attemptInOrder connection inputs order).start around session = (.ok attempts, after) ∧
      (∀ attempt ∈ attempts, attempt.1 ∈ order) ∧ Attempted connection inputs around session attempts after := by
  induction order generalizing session with
  | nil => exact ⟨[], session, rfl, by simp, List.prefix_rfl, by simp, by simp, .nil⟩
  | cons place rest ih =>
    obtain ⟨hplace, hrest⟩ := List.nodup_cons.mp hnodup
    unfold attemptInOrder
    cases hinput : inputs[place]? with
    | none =>
      obtain ⟨attempts, after, hstart, hplaces, hattempted⟩ := ih hrest hlends
      exact ⟨attempts, after, hstart, fun a ha => List.mem_cons_of_mem _ (hplaces a ha), hattempted⟩
    | some input =>
      have hlent : ∀ id name, input = .stream id name → id < session.streams.length :=
        fun id name heq => hlends.there id name (heq ▸ List.mem_of_getElem? hinput)
      obtain ⟨hgrows, hsource⟩ := streams_obtain connection input around session
      rcases hobtain : (obtain connection input).start around session with ⟨outcome, reached⟩
      rw [hobtain] at hgrows hsource
      obtain ⟨attempts, after, hstart, hplaces, hattempted⟩ := ih hrest (hlends.of_prefix hgrows)
      have hsame : ∀ other, other ∈ inputs → ((sample connection other).start around reached).1 =
          ((sample connection other).start around session).1 := fun other hother => sample_congr fun id name heq =>
        Session.getElem?_of_prefix hgrows (hlends.there id name (heq ▸ hother))
      refine ⟨(place, outcome) :: attempts, after, ?_, ?_, hgrows.trans hattempted.grows, ?_, ?_, ?_⟩
      · dsimp only
        rw [start_bind_attempt, hobtain, start_bind_of_ok hstart]
        rfl
      · rintro attempt hattempt
        rcases List.mem_cons.mp hattempt with rfl | hattempt
        · exact List.mem_cons_self
        · exact List.mem_cons_of_mem _ (hplaces attempt hattempt)
      · intro place' outcome' hmem
        rcases List.mem_cons.mp hmem with heq | hmem
        · cases heq
          refine ⟨input, hinput, fun p hp => ?_⟩
          subst hp
          exact held_of_obtain hlent hobtain hattempted.grows
        · obtain ⟨other, hother, hheld⟩ := hattempted.held place' outcome' hmem
          exact ⟨other, hother, fun p hp => (hheld p hp).trans (hsame other (List.mem_of_getElem? hother))⟩
      · intro place' p hmem id hid
        rcases List.mem_cons.mp hmem with heq | hmem
        · cases heq
          rcases hsource p rfl id hid with ⟨name, hname⟩ | ⟨hnew, -⟩
          · exact Or.inl ⟨name, hname ▸ hinput⟩
          · exact Or.inr hnew
        · exact (hattempted.source place' p hmem id hid).imp_right (Nat.le_trans hgrows.length_le)
      · refine List.pairwise_cons.mpr ⟨fun other hother p q hp hq id hid hid' => ?_, hattempted.apart⟩
        subst hp
        obtain ⟨place', outcome'⟩ := other
        subst hq
        have hlater := hattempted.source place' q hother id hid'
        have hnow := hsource p rfl id hid
        -- The later payload comes from a stream that is lent for another place, or from one that is still newer.
        rcases hlater with ⟨name', hname'⟩ | hnewer
        · rcases hnow with ⟨name, hname⟩ | ⟨hnew, -⟩
          · have hsame := hlends.once place place' id name name' (hname ▸ hinput) hname'
            exact hplace (hsame ▸ hplaces _ hother)
          · exact Nat.not_lt.mpr hnew (hlends.there id name' (List.mem_of_getElem? hname'))
        · rcases hnow with ⟨name, hname⟩ | ⟨-, hold⟩
          · exact Nat.not_lt.mpr (Nat.le_trans hgrows.length_le hnewer) (hlent id name hname)
          · exact Nat.not_lt.mpr hnewer hold

/-- If all inputs can be obtained and their streams are lent, all are obtained in their order, in whatever order they
are attempted. Each payload holds what its input holds alone, and no two payloads come from the same stream. -/
theorem start_obtainAll_held {inputs : List FileInput} (h : ∀ input ∈ inputs, Obtainable connection around input)
    (hlends : session.Lends inputs) :
    ∃ payloads after, (obtainAll connection inputs).start around session = (.ok payloads, after) ∧
      List.Forall₂ (fun input p => (p.held.start around after).1 = ((sample connection input).start around session).1)
        inputs payloads ∧
      payloads.Pairwise Apart := by
  obtain ⟨attempts, outcomes, after, hattempts, hperm, houtcomes, hlookup, hall⟩ :=
    start_obtainAll connection inputs around session
  have hnodup := (around.schedule.inputs_perm inputs.length).nodup_iff.mpr List.nodup_range
  obtain ⟨_, _, hattempts', -, hattempted⟩ := @attempted around session connection inputs _ hnodup hlends
  cases hattempts.symm.trans hattempts'
  have hboth := List.Forall₂.mp (fun _ _ => And.intro) houtcomes (hlookup _ hattempted.held)
  obtain ⟨hnone, hpayloads⟩ := obtained_of_forall₂ (fun input hinput outcome hboth => h input hinput outcome hboth.1)
    hboth
  rw [hnone] at hall
  refine ⟨_, after, hall, hpayloads.imp fun input p hp => hp.2 p rfl, ?_⟩
  have hsymm : ∀ {p q : Payload}, p.Apart q → q.Apart p := fun happart id hid hid' => happart id hid' hid
  refine ((hperm.filterMap _).pairwise_iff hsymm).mpr ?_
  rw [List.pairwise_filterMap, List.pairwise_map]
  refine hattempted.apart.imp fun {a b} hapart p hp q hq => ?_
  cases houtcome : a.2 with
  | error fault => simp [houtcome] at hp
  | ok p' =>
    cases houtcome' : b.2 with
    | error fault => simp [houtcome'] at hq
    | ok q' =>
      simp only [houtcome, Option.some.injEq] at hp
      simp only [houtcome', Option.some.injEq] at hq
      exact hapart p q (houtcome.trans (congrArg _ hp)) (houtcome'.trans (congrArg _ hq))

end Payload

end DocBuild
