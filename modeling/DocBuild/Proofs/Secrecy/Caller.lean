import DocBuild.Proofs.Job.Interleaving
import DocBuild.Proofs.Secrecy.Client

/-!
# What depends on the key

Whatever a caller does with a client over HTTP, if the service ignores keys, the key shows only in the authorization
headers of the requests to the service: replies, faults, log, progress, streams and fetches are the same with any other
key, and so is all else in the requests.
-/

namespace DocBuild

open Run

variable {key key' : Text}

/-- What a caller asks for: an operation of a client, or one of a job that was opened before, through a stage of the job
or directly. -/
inductive Ask where
  | client (operation : Text) (args : Arguments)
  | job (place : Nat) (target : Option Stage) (name : Text) (args : Arguments)

/-- What a caller is given. -/
inductive AskReply where
  | client (reply : ClientReply)
  | job (reply : JobReply)

/-- A caller with a client, the jobs that were opened so far, and the replies and faults so far, in a session. -/
structure Caller where
  client : Client
  jobs : List Job := []
  replies : List (Except Fault AskReply) := []
  session : Session := {}

namespace Caller

/-- The job that an operation of the client opens, if it opens one. -/
def opened (client : Client) (args : Arguments) : Except Fault ClientReply → List Job
  | .ok (.stage _) => [client.newJob (args.value "timeout")]
  | _ => []

/-- The caller after asking for something. What is asked of a job that was not opened is asked of nobody. -/
def step (caller : Caller) (around : Surroundings) : Ask → Caller
  | .client operation args =>
    let (outcome, session) := (caller.client.call operation args).start around caller.session
    { caller with
      jobs := caller.jobs ++ opened caller.client args outcome
      replies := caller.replies ++ [outcome.map .client]
      session }
  | .job place target name args =>
    match caller.jobs[place]?, JobCall.named target name args with
    | none, _ => caller
    | some _, .error fault => { caller with replies := caller.replies ++ [.error fault] }
    | some job, .ok call =>
      match (call.on job).start around caller.session with
      | (.error fault, session) => { caller with replies := caller.replies ++ [.error fault], session }
      | (.ok (reply, job), session) =>
        { caller with
          jobs := caller.jobs.set place job
          replies := caller.replies ++ [reply.map .job]
          session }

/-- The caller after asking for one thing after the other, each in its own surroundings. -/
def after (caller : Caller) (asked : List (Surroundings × Ask)) : Caller :=
  asked.foldl (fun caller ask => caller.step ask.1 ask.2) caller

/-- Two callers are alike if they have the same client and the same jobs over one transport and over the other, were
given the same, and their sessions are alike. -/
structure Alike (key key' : Text) (c : Client) (t t' : Transport) (caller caller' : Caller) : Prop where
  client : caller.client = c.through t ∧ caller'.client = c.through t'
  jobs : ∃ jobs : List Job, caller.jobs = jobs.map (Job.through t) ∧ caller'.jobs = jobs.map (Job.through t')
  replies : caller'.replies = caller.replies
  session : caller.session.Alike key key' caller'.session

variable {c : Client} {t t' : Transport} {caller caller' : Caller} {around : Surroundings}

/-- A job that a client opens through another transport is the same but for the transport. -/
theorem opened_through (c : Client) (args : Arguments) (outcome : Except Fault ClientReply) :
    opened (c.through t) args outcome = (opened c args outcome).map (Job.through t) := by
  unfold opened
  split <;> rfl

/-- Over transports that agree callers who are alike stay alike whatever both ask for. -/
theorem Alike.step (halike : caller.Alike key key' c t t' caller') (h : Transport.Agree key key' around t t')
    (ask : Ask) : (caller.step around ask).Alike key key' c t t' (caller'.step around ask) := by
  obtain ⟨client, known, replies, session⟩ := caller
  obtain ⟨client', known', replies', session'⟩ := caller'
  obtain ⟨⟨rfl, rfl⟩, ⟨jobs, rfl, rfl⟩, rfl, hsession⟩ := halike
  cases ask with
  | client operation args =>
    obtain ⟨houtcome, hafter⟩ := c.agrees_call h operation args session session' hsession
    simp only [Caller.step, houtcome, opened_through, ← List.map_append]
    exact ⟨⟨rfl, rfl⟩, ⟨_, rfl, rfl⟩, rfl, hafter⟩
  | job place target name args =>
    simp only [Caller.step, List.getElem?_map]
    cases jobs[place]? with
    | none => exact ⟨⟨rfl, rfl⟩, ⟨jobs, rfl, rfl⟩, rfl, hsession⟩
    | some job =>
      cases JobCall.named target name args with
      | error fault => exact ⟨⟨rfl, rfl⟩, ⟨jobs, rfl, rfl⟩, rfl, hsession⟩
      | ok call =>
        obtain ⟨left, reply, reply', hon, hon', hagrees⟩ := call.agrees_on job h
        obtain ⟨houtcome, hafter⟩ := hagrees session session' hsession
        simp only [Option.map_some, hon, hon', start_map, houtcome]
        cases (reply.start around session).1 with
        | error fault => exact ⟨⟨rfl, rfl⟩, ⟨jobs, rfl, rfl⟩, rfl, hafter⟩
        | ok found =>
          simp only [Except.map, ← List.map_set]
          exact ⟨⟨rfl, rfl⟩, ⟨jobs.set place left, rfl, rfl⟩, rfl, hafter⟩

/-- Over transports that agree callers who are alike stay alike. -/
theorem Alike.after (halike : caller.Alike key key' c t t' caller') (asked : List (Surroundings × Ask))
    (h : ∀ ask ∈ asked, Transport.Agree key key' ask.1 t t') :
    (caller.after asked).Alike key key' c t t' (caller'.after asked) := by
  induction asked generalizing caller caller' with
  | nil => exact halike
  | cons ask rest ih =>
    exact ih (halike.step (h ask List.mem_cons_self) ask.2) fun other hother => h other (List.mem_cons_of_mem _ hother)

end Caller

/-- Two clients over HTTP that differ in the key, neither key empty, give the same replies and faults to whatever a
caller asks for, and leave the same log, progress and streams, if the service ignores keys. What they send is the same
but for the authorization header of the requests to the service, which carries the key of the client. -/
theorem key_stays_in_authorization (hkey : key ≠ []) (hkey' : key' ≠ []) (baseUrl timeout : Json)
    (connection : Connection) {session : Session} (hfresh : session.sent = []) {asked : List (Surroundings × Ask)}
    (hignores : ∀ ask ∈ asked, ask.1.IgnoresKeys) :
    ∃ client client', Client.make (.literal key) baseUrl timeout none connection = .ok client ∧
      Client.make (.literal key') baseUrl timeout none connection = .ok client' ∧
      let caller := Caller.after { client, session } asked
      let caller' := Caller.after { client := client', session } asked
      caller'.replies = caller.replies ∧ caller'.session.log = caller.session.log ∧
      caller'.session = { caller.session with sent := caller'.session.sent } ∧
      List.Forall₂ (Sent.Alike key key') caller.session.sent caller'.session.sent ∧
      caller'.jobs = caller.jobs.map (Job.through client'.transport) := by
  let t : HttpTransport := { key := .literal key, baseUrl, timeout, connection }
  let c : Client := ⟨t.transport, connection, baseUrl⟩
  have hmake (key : Text) (hkey : key ≠ []) : Client.make (.literal key) baseUrl timeout none connection =
      .ok (c.through (t.withKey key).transport) := by
    cases key with
    | nil => contradiction
    | cons first rest => rfl
  have halike : (Caller.mk (c.through (t.withKey key).transport) [] [] session).Alike key key' c
      (t.withKey key).transport (t.withKey key').transport ⟨c.through (t.withKey key').transport, [], [], session⟩ := by
    refine ⟨⟨rfl, rfl⟩, ⟨[], rfl, rfl⟩, rfl, ?_, rfl⟩
    rw [hfresh]
    exact .nil
  obtain ⟨-, ⟨jobs, hjobs, hjobs'⟩, hreplies, hsent, hothers⟩ := halike.after asked fun ask hask =>
    t.transports_agree hkey hkey' (hignores ask hask)
  refine ⟨_, _, hmake key hkey, hmake key' hkey', hreplies, ?_, hothers, hsent, ?_⟩
  · rw [hothers]
  · rw [hjobs, hjobs', List.map_map]
    rfl

/-- Surroundings in which every file is fetched and the service refuses every request. -/
def Surroundings.refusing : Surroundings where
  entry _ := .noFile
  web _ := .ok ⟨200, [], [120], none⟩
  service _ _ := .ok ⟨401, [], [], none⟩

/-- Account information, and then a job with a remote file that is executed. -/
def accountAndJob : List (Surroundings × Ask) :=
  [(.refusing, .client "get_account_info" []),
   (.refusing, .client "workflow" []),
   (.refusing, .job 0 (some .empty) "add_file_part" [("file", .file (.remote (.str "https://example.com/a.pdf")))]),
   (.refusing, .job 0 (some .withParts) "output_pdf" []),
   (.refusing, .job 0 (some .withOutput) "execute" [])]

/-- With either key two requests are refused and one file is fetched between them; the messages differ in the key
alone. -/
theorem accountAndJob_refused :
    (Text.ofString "first" ≠ [] ∧ Text.ofString "second" ≠ [] ∧ ∀ ask ∈ accountAndJob, ask.1.IgnoresKeys) ∧
    ∃ client client', Client.make (.literal "first") (.str HttpTransport.defaultBaseUrl) .null none .own = .ok client ∧
      Client.make (.literal "second") (.str HttpTransport.defaultBaseUrl) .null none .own = .ok client' ∧
      (Caller.after { client } accountAndJob).session.sent.length = 3 ∧
      (Caller.after { client := client' } accountAndJob).replies = (Caller.after { client } accountAndJob).replies ∧
      List.Forall₂ (Sent.Alike "first" "second") (Caller.after { client } accountAndJob).session.sent
        (Caller.after { client := client' } accountAndJob).session.sent := by
  have hkey : Text.ofString "first" ≠ [] := by decide
  have hkey' : Text.ofString "second" ≠ [] := by decide
  have hignores : ∀ ask ∈ accountAndJob, ask.1.IgnoresKeys := by
    intro ask hask
    have hrefusing : ∀ around ∈ accountAndJob.map Prod.fst, around = .refusing := by
      simp [accountAndJob]
    rw [hrefusing ask.1 (List.mem_map_of_mem hask)]
    exact fun _ _ _ _ _ _ => rfl
  obtain ⟨client, client', hmake, hmake', hreplies, -, -, hsent, -⟩ :=
    key_stays_in_authorization hkey hkey' (.str HttpTransport.defaultBaseUrl) .null .own
      (show Session.sent {} = [] from rfl) hignores
  refine ⟨⟨hkey, hkey', hignores⟩, client, client', hmake, hmake', ?_, hreplies, hsent⟩
  cases hmake
  decide +kernel

end DocBuild
