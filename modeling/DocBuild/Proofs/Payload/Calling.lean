import DocBuild.Payload.Call
import DocBuild.Proofs.Client.Loading

/-!
# Calls of a payload that comes from a stream

Such a payload is in one of three states: its stream was not touched; it owns the octets of the stream; or its stream
is closed and they are lost. The first call decides which of the other two follows. A read or a count takes the octets
if the stream gives them, and from then on the payload answers from these alone and leaves the session as it is. If the
stream does not give them or is closed first, nothing is ever obtained. In both cases the stream is closed for good.

A call gives a failure where the reading, closing and counting of a client raise it, and is the same otherwise.
-/

namespace DocBuild

open Run

variable {around : Surroundings} {session after : Session} {id : StreamId} {content : Bytes} {filename : Json}
  {p : Payload} {c : PayloadCall} {calls : List PayloadCall}

/-- What a call of a payload gives that owns octets. -/
def PayloadCall.answer (data : Bytes) (filename : Json) : PayloadCall → Except Fault PayloadReply
  | read => .ok (.octets data)
  | close => .ok .closed
  | count => (Pdf.countPages data filename).map .pages

/-- One call of a payload: the payload and the session before it, what came of it, and the payload and the session
after it. -/
structure PayloadTurn where
  call : PayloadCall
  payload : Payload
  session : Session
  reply : Except Fault PayloadReply
  owner : Payload
  after : Session

namespace PayloadTurn

/-- Whether the octets were read from a stream, with success, in this turn. -/
def takes (t : PayloadTurn) : Bool :=
  match t.payload.source with
  | .owned _ => false
  | .stream id => t.call ≠ .close && (t.session.streamAt id).read.isOk

/-- Octets are taken in a turn exactly if it is a read or a count of a payload that comes from a stream, and reading
the stream once gives its octets. -/
theorem takes_iff_reads (t : PayloadTurn) (around : Surroundings) :
    t.takes = true ↔ t.call ≠ .close ∧ ∃ id data, t.payload.source = .stream id ∧
      ((readStream id).start around t.session).1 = .ok data := by
  unfold takes
  cases hsource : t.payload.source with
  | owned data => simp
  | stream id =>
    cases hread : (t.session.streamAt id).read with
    | error fault => simp [hread, start_readStream_of_error hread, Except.isOk, Except.toBool]
    | ok found => simp [hread, start_readStream_of_ok hread, Except.isOk, Except.toBool]

/-- The payload answered from octets that it owned, and left everything as it was. -/
structure Serves (t : PayloadTurn) (content : Bytes) (filename : Json) : Prop where
  owned : t.payload.isStream = false
  reply : t.reply = t.call.answer content filename
  owner : t.owner = t.payload
  session : t.after = t.session

/-- Nothing was obtained, and the stream is closed. -/
structure Denies (t : PayloadTurn) (id : StreamId) : Prop where
  takes : t.takes = false
  reply : t.call = .close ∧ t.reply = .ok .closed ∨ t.call ≠ .close ∧ ∃ fault, t.reply = .error fault
  closed : (t.after.streamAt id).closed = true

end PayloadTurn

/-- The turns of a payload that is called again and again. -/
inductive Payload.Traces (around : Surroundings) :
    Payload → Session → List PayloadCall → List PayloadTurn → Prop
  | nil (p : Payload) (session : Session) : Traces around p session [] []
  | cons {p owner : Payload} {session after : Session} {c : PayloadCall} {reply : Except Fault PayloadReply}
      {calls : List PayloadCall} {turns : List PayloadTurn}
      (h : (p.call c).start around session = (.ok (reply, owner), after))
      (hrest : Traces around owner after calls turns) :
      Traces around p session (c :: calls) (⟨c, p, session, reply, owner, after⟩ :: turns)

/-- The laws of the turns of a payload that comes from a stream with the given content. -/
structure PayloadTurn.ReadOnce (turns : List PayloadTurn) (id : StreamId) (content : Bytes) (filename : Json) :
    Prop where
  /-- The stream is read with success at most once. -/
  once : (turns.filter takes).length ≤ 1
  /-- From the first attempt to read it on, the stream is closed. -/
  closed : ∀ earlier t later, turns = earlier ++ t :: later → t.call ≠ .close →
    ∀ u ∈ t :: later, (u.after.streamAt id).closed = true
  /-- Octets are those of the stream, and pages are counted in these. -/
  same : ∀ t ∈ turns, (∀ data, t.reply = .ok (.octets data) → data = content) ∧
    ∀ count, t.reply = .ok (.pages count) → Pdf.countPages content filename = .ok count
  /-- Nothing is obtained before the stream was read with success. -/
  taken : ∀ earlier t later, turns = earlier ++ t :: later → t.call ≠ .close → (∃ reply, t.reply = .ok reply) →
    ∃ u ∈ earlier ++ [t], u.takes = true
  /-- Once the stream was read with success the payload is no stream any more, and answers all calls. -/
  served : ∀ earlier t later, turns = earlier ++ t :: later → t.takes = true →
    t.owner.isStream = false ∧ t.reply = t.call.answer content filename ∧ ∀ u ∈ later, u.Serves content filename
  /-- If the payload is closed before the stream was read with success, nothing is obtained any more. -/
  lost : ∀ earlier t later, turns = earlier ++ t :: later → t.call = .close → (∀ u ∈ earlier, u.takes = false) →
    ∀ u ∈ later, u.call ≠ .close → ∃ fault, u.reply = .error fault

section Streams

/-- A stream is closed, and reading it fails. -/
def Session.Lost (session : Session) (id : StreamId) : Prop :=
  (session.streamAt id).closed = true ∧ ∃ fault, (session.streamAt id).read = .error fault

/-- Reading a stream that was closed fails. -/
theorem Stream.exists_read_close (s : Stream) : ∃ fault, s.close.read = .error fault := by
  unfold read close
  cases s.failure with
  | some reason => exact ⟨_, rfl⟩
  | none => exact ⟨_, rfl⟩

/-- What is read from a stream is its content. -/
theorem Stream.eq_content_of_read {s left : Stream} (h : s.read = .ok (content, left)) : content = s.content := by
  unfold read at h
  split at h
  · cases h
  · split at h
    · cases h
    · cases h
      rfl

/-- A stream that was closed is lost. -/
theorem lost_closeStream (id : StreamId) (around : Surroundings) (session : Session) :
    ((closeStream id).start around session).2.Lost id := by
  have hthere : ((closeStream id).start around session).2.streamAt id =
      ((session.streams.set id (session.streamAt id).close)[id]?).getD (Stream.close { content := [] }) :=
    Session.streamAt_eq ..
  obtain ⟨s, hs⟩ : ∃ s : Stream, ((closeStream id).start around session).2.streamAt id = s.close := by
    rw [hthere, List.getElem?_set_self']
    cases session.streams[id]? with
    | none => exact ⟨_, rfl⟩
    | some s => exact ⟨_, rfl⟩
  rw [Session.Lost, hs]
  exact ⟨rfl, s.exists_read_close⟩

end Streams

namespace Payload

section Operations

/-- An access gives what was read, and the payload that owns it. -/
theorem start_access_of_ok {owner : Payload} (h : p.read.start around session = (.ok (content, owner), after)) :
    p.access.start around session = (.ok (.ok content, owner), after) := by
  unfold access
  rw [start_bind_attempt, h]
  rfl

/-- An access gives what made the read fail, and the payload as it was. -/
theorem start_access_of_error {fault : Fault} (h : p.read.start around session = (.error fault, after)) :
    p.access.start around session = (.ok (.error fault, p), after) := by
  unfold access
  rw [start_bind_attempt, h]
  rfl

/-- What a call asks for, as an operation that raises its failure. -/
def operation (p : Payload) : PayloadCall → Run (PayloadReply × Payload)
  | .read => (fun found => (.octets found.1, found.2)) <$> p.read
  | .close => (fun _ => (.closed, p)) <$> p.close
  | .count => (fun counted => (.pages counted.1, counted.2)) <$> p.countPages

/-- Raises what failed in a call. -/
def raised (x : Run (Except Fault PayloadReply × Payload)) : Run (PayloadReply × Payload) := do
  let (reply, owner) ← x
  return (← Run.ofExcept reply, owner)

/-- What a call comes to when its failure is raised. -/
theorem start_raised {x : Run (Except Fault PayloadReply × Payload)} {reply : Except Fault PayloadReply}
    {owner : Payload} (h : x.start around session = (.ok (reply, owner), after)) :
    (raised x).start around session = (reply.map (·, owner), after) := by
  unfold raised
  rw [start_bind_of_ok h, start_bind_pure, start_ofExcept]

/-- A call for the octets gives what the access gives. -/
theorem start_call_read {outcome : Except Fault Bytes} {owner : Payload}
    (h : p.access.start around session = (.ok (outcome, owner), after)) :
    (p.call .read).start around session = (.ok (outcome.map .octets, owner), after) :=
  start_bind_of_ok h _

/-- A call for the number of pages counts them in what the access gives. -/
theorem start_call_count {outcome : Except Fault Bytes} {owner : Payload}
    (h : p.access.start around session = (.ok (outcome, owner), after)) :
    (p.call .count).start around session =
      (.ok (outcome.bind fun data => (Pdf.countPages data owner.filename).map .pages, owner), after) :=
  start_bind_of_ok h _

/-- A call to close gives what closing comes to. -/
theorem start_call_close {outcome : Except Fault Unit} (h : p.close.start around session = (outcome, after)) :
    (p.call .close).start around session = (.ok (outcome.map fun _ => .closed, p), after) := by
  unfold call
  dsimp only
  rw [start_bind_attempt, h]
  rfl

/-- A call whose failure is raised is the operation that it asks for. -/
theorem start_raised_call (p : Payload) (c : PayloadCall) (around : Surroundings) (session : Session) :
    (raised (p.call c)).start around session = (p.operation c).start around session := by
  cases c with
  | read =>
    rw [operation, start_map]
    rcases h : p.read.start around session with ⟨fault | ⟨data, owner⟩, after⟩
    · exact start_raised (start_call_read (start_access_of_error h))
    · exact start_raised (start_call_read (start_access_of_ok h))
  | close =>
    rw [operation, start_map]
    rcases h : p.close.start around session with ⟨fault | ⟨⟩, after⟩
    · exact start_raised (start_call_close h)
    · exact start_raised (start_call_close h)
  | count =>
    rw [operation, start_map]
    rcases h : p.read.start around session with ⟨fault | ⟨data, owner⟩, after⟩
    · have hcount : p.countPages.start around session = (.error fault, after) := start_bind_of_error h _
      rw [hcount]
      exact start_raised (start_call_count (start_access_of_error h))
    · rw [start_countPages h]
      refine (start_raised (start_call_count (start_access_of_ok h))).trans ?_
      change (((Pdf.countPages data owner.filename).map PayloadReply.pages).map (·, owner), after) = _
      cases Pdf.countPages data owner.filename <;> rfl

end Operations

section Steps

/-- Reading a payload that owns its octets gives them. -/
theorem start_access_of_owned (h : p.source = .owned content) :
    p.access.start around session = (.ok (.ok content, p), session) := by
  refine start_access_of_ok ?_
  unfold read
  rw [h]
  rfl

/-- Reading a payload that comes from a stream reads the stream once and closes it. -/
theorem start_access_of_stream (h : p.source = .stream id) (around : Surroundings) (session : Session) :
    p.access.start around session =
      (.ok (((readStream id).start around session).1,
        match ((readStream id).start around session).1 with
        | .ok content => p.owning content
        | .error _ => p), ((closeStream id).start around ((readStream id).start around session).2).2) := by
  have hread : p.read.start around session =
      (((readStream id).start around session).1.map fun content => (content, p.owning content),
        ((closeStream id).start around ((readStream id).start around session).2).2) := by
    unfold read
    rw [h]
    dsimp only
    rw [start_bind_pure, start_andFinally fun _ => rfl]
  cases hfound : ((readStream id).start around session).1 with
  | error fault =>
    rw [hfound] at hread
    exact start_access_of_error hread
  | ok content =>
    rw [hfound] at hread
    exact start_access_of_ok hread

/-- A payload that owns its octets answers every call from them, and leaves everything as it is. -/
theorem start_call_of_owned (h : p.source = .owned content) (c : PayloadCall) :
    (p.call c).start around session = (.ok (c.answer content p.filename, p), session) := by
  cases c with
  | read => exact start_call_read (start_access_of_owned h)
  | count => exact start_call_count (start_access_of_owned h)
  | close =>
    have hclose : p.close.start around session = (.ok (), session) := by
      unfold close
      rw [h]
      rfl
    exact start_call_close hclose

/-- A read or a count of a payload that comes from a stream reads the stream once and closes it, and does nothing else.
If it gives its octets, the call is answered from them and the payload owns them. -/
theorem start_call_of_stream (h : p.source = .stream id) (hc : c ≠ .close) (around : Surroundings) (session : Session) :
    (p.call c).start around session =
      (.ok (match ((readStream id).start around session).1 with
        | .ok content => (c.answer content p.filename, p.owning content)
        | .error fault => (.error fault, p)),
        ((closeStream id).start around ((readStream id).start around session).2).2) := by
  have haccess := start_access_of_stream h around session
  cases hfound : ((readStream id).start around session).1 with
  | error fault =>
    rw [hfound] at haccess
    cases c with
    | read => exact start_call_read haccess
    | count => exact start_call_count haccess
    | close => exact absurd rfl hc
  | ok content =>
    rw [hfound] at haccess
    cases c with
    | read => exact start_call_read haccess
    | count => exact start_call_count haccess
    | close => exact absurd rfl hc

/-- A read or a count takes the octets that the stream gives: it answers from them, and the payload owns them. -/
theorem start_call_of_taken {left : Stream} (h : p.source = .stream id)
    (hread : (session.streamAt id).read = .ok (content, left)) (hc : c ≠ .close) :
    ∃ after, after.Lost id ∧
      (p.call c).start around session = (.ok (c.answer content p.filename, p.owning content), after) := by
  have hcall := start_call_of_stream h hc around session
  rw [start_readStream_of_ok hread] at hcall
  exact ⟨_, lost_closeStream id around _, hcall⟩

/-- A call that is a close, or that finds a stream that cannot be read, obtains nothing, and the stream is lost. -/
theorem start_call_of_denied (h : p.source = .stream id)
    (hdenied : c = .close ∨ ∃ fault, (session.streamAt id).read = .error fault) :
    ∃ reply after, after.Lost id ∧ (p.call c).start around session = (.ok (reply, p), after) ∧
      (c = .close ∧ reply = .ok .closed ∨ c ≠ .close ∧ ∃ fault, reply = .error fault) := by
  by_cases hc : c = .close
  · subst hc
    have hclose : p.close.start around session = (.ok (), ((closeStream id).start around session).2) := by
      unfold close
      rw [h]
      rfl
    exact ⟨_, _, lost_closeStream id around session, start_call_close hclose, Or.inl ⟨rfl, rfl⟩⟩
  · obtain ⟨fault, hread⟩ := hdenied.resolve_left hc
    have hcall := start_call_of_stream h hc around session
    rw [start_readStream_of_error hread] at hcall
    exact ⟨_, _, lost_closeStream id around session, hcall, Or.inr ⟨hc, fault, rfl⟩⟩

/-- Every call comes to something. -/
theorem exists_start_call (p : Payload) (c : PayloadCall) (around : Surroundings) (session : Session) :
    ∃ reply owner after, (p.call c).start around session = (.ok (reply, owner), after) := by
  cases hsource : p.source with
  | owned data => exact ⟨_, _, _, start_call_of_owned hsource c⟩
  | stream id =>
    by_cases hc : c = .close
    · obtain ⟨reply, after, -, hstart, -⟩ := @start_call_of_denied around session id p c hsource (Or.inl hc)
      exact ⟨reply, p, after, hstart⟩
    · exact ⟨_, _, _, start_call_of_stream hsource hc around session⟩

end Steps

section Runs

variable {turns : List PayloadTurn}

/-- Calls can be made one after the other, as many as there are. -/
theorem exists_traces (around : Surroundings) (p : Payload) (session : Session) (calls : List PayloadCall) :
    ∃ turns, Traces around p session calls turns := by
  induction calls generalizing p session with
  | nil => exact ⟨[], .nil p session⟩
  | cons c rest ih =>
    obtain ⟨reply, owner, after, hstart⟩ := p.exists_start_call c around session
    obtain ⟨turns, hturns⟩ := ih owner after
    exact ⟨_, .cons hstart hturns⟩

/-- The turns are those of the calls. -/
theorem Traces.map_call (h : Traces around p session calls turns) : turns.map PayloadTurn.call = calls := by
  induction h with
  | nil p session => rfl
  | cons _ _ ih => rw [List.map_cons, ih]

/-- A payload that owns its octets answers all calls from them, and leaves everything as it is. -/
theorem Traces.serves (h : Traces around p session calls turns) (hsource : p.source = .owned content) :
    ∀ t ∈ turns, t.Serves content p.filename ∧ t.takes = false ∧ t.after = session := by
  induction h with
  | nil p session => simp
  | cons hstart _ ih =>
    cases (start_call_of_owned hsource _).symm.trans hstart
    refine List.forall_mem_cons.mpr ⟨⟨⟨?_, rfl, rfl, rfl⟩, ?_, rfl⟩, ih hsource⟩
    · unfold isStream
      rw [hsource]
    · unfold PayloadTurn.takes
      rw [hsource]

/-- A read or a count takes what the stream gives. -/
theorem takes_of_taken {reply : Except Fault PayloadReply} {owner : Payload} {left : Stream}
    (h : p.source = .stream id) (hread : (session.streamAt id).read = .ok (content, left)) (hc : c ≠ .close) :
    (⟨c, p, session, reply, owner, after⟩ : PayloadTurn).takes = true :=
  (PayloadTurn.takes_iff_reads _ .empty).mpr
    ⟨hc, id, content, h, congrArg Prod.fst (start_readStream_of_ok hread)⟩

/-- A call that is denied takes nothing. -/
theorem takes_of_denied {reply : Except Fault PayloadReply} {owner : Payload} (h : p.source = .stream id)
    (hdenied : c = .close ∨ ∃ fault, (session.streamAt id).read = .error fault) :
    (⟨c, p, session, reply, owner, after⟩ : PayloadTurn).takes = false := by
  refine Bool.eq_false_iff.mpr fun htakes => ?_
  obtain ⟨hc, place, data, hsource, hreads⟩ := (PayloadTurn.takes_iff_reads _ .empty).mp htakes
  obtain ⟨fault, hread⟩ := hdenied.resolve_left hc
  cases h.symm.trans hsource
  rw [start_readStream_of_error hread] at hreads
  cases hreads

/-- A payload whose stream is lost denies all calls. -/
theorem Traces.denies (h : Traces around p session calls turns) (hsource : p.source = .stream id)
    (hlost : session.Lost id) : ∀ t ∈ turns, t.Denies id := by
  induction h with
  | nil p session => simp
  | cons hstart _ ih =>
    obtain ⟨reply, after, hlost', hcall, hreply⟩ := start_call_of_denied hsource (Or.inr hlost.2)
    cases hcall.symm.trans hstart
    exact List.forall_mem_cons.mpr ⟨⟨takes_of_denied hsource (Or.inr hlost.2), hreply, hlost'.1⟩, ih hsource hlost'⟩

end Runs

end Payload

namespace PayloadTurn

variable {turns rest : List PayloadTurn} {first : PayloadTurn}

/-- Turns of which all are denied are as they should be. -/
theorem readOnce_of_denied (h : ∀ t ∈ turns, t.Denies id) : ReadOnce turns id content filename := by
  have hmem {earlier later : List PayloadTurn} {t u : PayloadTurn} (heq : turns = earlier ++ t :: later)
      (hu : u ∈ t :: later) : u ∈ turns := heq ▸ List.mem_append_right earlier hu
  have hfails {t : PayloadTurn} (ht : t ∈ turns) (hc : t.call ≠ .close) : ∃ fault, t.reply = .error fault :=
    ((h t ht).reply.resolve_left fun hclose => hc hclose.1).2
  refine ⟨?_, fun earlier t later heq _ u hu => (h u (hmem heq hu)).closed, fun t ht => ?_, ?_, ?_, ?_⟩
  · rw [List.filter_eq_nil_iff.mpr fun t ht => by simp [(h t ht).takes]]
    exact Nat.zero_le 1
  · rcases (h t ht).reply with ⟨-, hreply⟩ | ⟨-, fault, hreply⟩ <;> simp [hreply]
  · rintro earlier t later heq hc ⟨reply, hreply⟩
    obtain ⟨fault, hfault⟩ := hfails (hmem heq List.mem_cons_self) hc
    cases hfault.symm.trans hreply
  · intro earlier t later heq htakes
    cases htakes.symm.trans (h t (hmem heq List.mem_cons_self)).takes
  · intro earlier t later heq _ _ u hu hc
    exact hfails (hmem heq (List.mem_cons_of_mem t hu)) hc

/-- Turns of which the first takes the octets, and the others are served from them, are as they should be. -/
theorem readOnce_of_taken (htakes : first.takes = true) (hc : first.call ≠ .close)
    (howner : first.owner.isStream = false) (hreply : first.reply = first.call.answer content filename)
    (hclosed : (first.after.streamAt id).closed = true)
    (hrest : ∀ t ∈ rest, t.Serves content filename ∧ t.takes = false ∧ t.after = first.after) :
    ReadOnce (first :: rest) id content filename := by
  have hanswer : ∀ t ∈ first :: rest, t.reply = t.call.answer content filename :=
    List.forall_mem_cons.mpr ⟨hreply, fun t ht => (hrest t ht).1.reply⟩
  have hends : ∀ t ∈ first :: rest, (t.after.streamAt id).closed = true :=
    List.forall_mem_cons.mpr ⟨hclosed, fun t ht => (hrest t ht).2.2 ▸ hclosed⟩
  -- Whatever turn is looked at, it is the first one, or the first one stands before it.
  have hplaced {earlier later : List PayloadTurn} {t : PayloadTurn} (heq : first :: rest = earlier ++ t :: later) :
      earlier = [] ∧ first = t ∧ rest = later ∨
        ∃ between, earlier = first :: between ∧ rest = between ++ t :: later := by
    rcases List.cons_eq_append_iff.mp heq with ⟨hnil, hcons⟩ | ⟨between, hearlier, hlater⟩
    · cases hcons
      exact Or.inl ⟨hnil, rfl, rfl⟩
    · exact Or.inr ⟨between, hearlier, hlater⟩
  refine ⟨?_, fun earlier t later heq _ u hu => hends u (heq ▸ List.mem_append_right earlier hu), fun t ht => ?_,
    ?_, ?_, ?_⟩
  · rw [List.filter_cons_of_pos htakes, List.filter_eq_nil_iff.mpr fun t ht => by simp [(hrest t ht).2.1]]
    exact Nat.le_refl 1
  · rw [hanswer t ht]
    cases t.call with
    | read => simp [PayloadCall.answer]
    | close => simp [PayloadCall.answer]
    | count => cases hcount : Pdf.countPages content filename <;> simp [PayloadCall.answer, hcount, Except.map]
  · intro earlier t later heq _ _
    refine ⟨first, ?_, htakes⟩
    rcases hplaced heq with ⟨rfl, rfl, -⟩ | ⟨between, rfl, -⟩ <;> simp
  · intro earlier t later heq ht
    rcases hplaced heq with ⟨rfl, rfl, rfl⟩ | ⟨between, rfl, rfl⟩
    · exact ⟨howner, hreply, fun u hu => (hrest u hu).1⟩
    · cases ht.symm.trans (hrest t (List.mem_append_right between List.mem_cons_self)).2.1
  · intro earlier t later heq hclose hnone
    rcases hplaced heq with ⟨rfl, rfl, rfl⟩ | ⟨between, rfl, rfl⟩
    · exact absurd hclose hc
    · cases htakes.symm.trans (hnone first List.mem_cons_self)

end PayloadTurn

/-- **A payload that comes from a stream reads it once and answers from what it read**: whatever is asked of it, and
however often, in whatever order. -/
theorem Payload.stream_read_once (around : Surroundings) (session : Session) (id : StreamId)
    (filename contentType : Json) (calls : List PayloadCall) :
    ∃ turns, Traces around ⟨.stream id, filename, contentType⟩ session calls turns ∧
      turns.map PayloadTurn.call = calls ∧
      PayloadTurn.ReadOnce turns id (session.streamAt id).content filename := by
  obtain ⟨turns, hturns⟩ := exists_traces around ⟨.stream id, filename, contentType⟩ session calls
  refine ⟨turns, hturns, hturns.map_call, ?_⟩
  cases hturns with
  | nil => exact PayloadTurn.readOnce_of_denied (by simp)
  | @cons _ owner _ after c reply calls turns hstart hrest =>
    -- The first call decides: it takes the octets, or all calls are denied.
    by_cases htaken : c ≠ .close ∧ ∃ found, (session.streamAt id).read = .ok found
    · obtain ⟨hc, ⟨content, left⟩, hread⟩ := htaken
      obtain ⟨closed, hlost, hcall⟩ := start_call_of_taken (p := ⟨.stream id, filename, contentType⟩) rfl hread hc
      cases hcall.symm.trans hstart
      rw [← Stream.eq_content_of_read hread]
      exact PayloadTurn.readOnce_of_taken (takes_of_taken rfl hread hc) hc rfl rfl hlost.1 (hrest.serves rfl)
    · have hdenied : c = .close ∨ ∃ fault, (session.streamAt id).read = .error fault := by
        refine or_iff_not_imp_left.mpr fun hc => ?_
        cases hread : (session.streamAt id).read with
        | error fault => exact ⟨fault, rfl⟩
        | ok found => exact absurd ⟨hc, found, hread⟩ htaken
      obtain ⟨reply, closed, hlost, hcall, hreply⟩ :=
        start_call_of_denied (p := ⟨.stream id, filename, contentType⟩) rfl hdenied
      cases hcall.symm.trans hstart
      exact PayloadTurn.readOnce_of_denied
        (List.forall_mem_cons.mpr ⟨⟨takes_of_denied rfl hdenied, hreply, hlost.1⟩, hrest.denies rfl hlost⟩)

end DocBuild
