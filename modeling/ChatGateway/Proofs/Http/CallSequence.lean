import ChatGateway.Http.Call
import ChatGateway.Proofs.RateLimit.Observation
import Mathlib.Data.List.Induction

/-!
Calls made one after another. A call has several steps, each of which may end it: the wait, the
request, the answer, the report to the limiter, and the reading of the answer. What the steps do is
written down in order, and what they do to the state of the interface is what the call as a whole is
said to do (`perform_eq`). `Ends` lists how a call can end and what was done by then. After any
number of calls the limiter has observed every answer that was received, and nothing else
(`calls_feed_limiter`).
-/

namespace ChatGateway

def RateLimiter.observeAll (limiter : RateLimiter) (reports : List Report) :
    Except RateLimitError RateLimiter :=
  reports.foldlM (fun limiter report =>
    limiter.observe report.headers report.object report.kind report.time) limiter

/-- A wait is over in the millisecond in which it is due. -/
theorem Duration.pause_some_bounds (d : Duration) :
    d.nanoseconds ≤ pause (some d) * 1000000 ∧
      pause (some d) * 1000000 < d.nanoseconds + 1000000 := by
  simp only [pause, milliseconds]
  omega

inductive Call.Effect where
  /-- A wait was over that the limiter had prescribed, if it had. -/
  | waited (wait : Option Duration)
  | sent (request : Request) (time : Int)
  | observed (report : Report)

namespace Call.Effect

def request? : Effect → Option Request
  | .sent request _ => some request
  | _ => none

def report? : Effect → Option Report
  | .observed report => some report
  | _ => none

end Call.Effect

structure RestState where
  limiter : RateLimiter
  /-- The time of day in milliseconds. -/
  now : Int
  /-- What the service answers to the next requests, `none` where it does not; after them, no
  request is answered. -/
  answers : List (Option Response)
  /-- What was done, the oldest first. -/
  done : List Call.Effect

namespace RestState

def note (state : RestState) (effect : Call.Effect) : RestState :=
  { state with done := state.done ++ [effect] }

def answer? (state : RestState) : Option Response := state.answers.head?.join

def wait (state : RestState) (wait : Option Duration) : RestState :=
  { state with now := state.now + Duration.pause wait }.note (.waited wait)

/-- The state after a request, to which the next answer belongs. -/
def send (state : RestState) (request : Request) : RestState :=
  { state with answers := state.answers.tail }.note (.sent request state.now)

def tell (state : RestState) (limiter : RateLimiter) (report : Report) : RestState :=
  { state with limiter }.note (.observed report)

@[simp] theorem limiter_wait (state : RestState) (wait : Option Duration) :
    (state.wait wait).limiter = state.limiter := rfl

@[simp] theorem limiter_send (state : RestState) (request : Request) :
    (state.send request).limiter = state.limiter := rfl

@[simp] theorem now_wait (state : RestState) (wait : Option Duration) :
    (state.wait wait).now = state.now + Duration.pause wait := rfl

@[simp] theorem now_send (state : RestState) (request : Request) :
    (state.send request).now = state.now := rfl

def requests (state : RestState) : List Request := state.done.filterMap Call.Effect.request?

def reports (state : RestState) : List Report := state.done.filterMap Call.Effect.report?

end RestState

/-- Work that calls do, which may break off. What was done before a step that fails stays done. -/
abbrev RestM := ExceptT ClientError (StateM RestState)

namespace RestM

variable {α β : Type}

def exec (work : RestM α) (state : RestState) : Except ClientError α × RestState :=
  work.run.run state

def step (f : RestState → Except ClientError α × RestState) : RestM α :=
  ExceptT.mk fun state => f state

@[simp] theorem exec_step (f : RestState → Except ClientError α × RestState)
    (state : RestState) : (step f).exec state = f state := rfl

/-- What follows on a step sees the state as the step has left it. -/
theorem exec_bind (work : RestM α) (next : α → RestM β) (state : RestState) :
    (work >>= next).exec state =
      match work.exec state with
      | (.ok a, left) => (next a).exec left
      | (.error e, left) => (.error e, left) := by
  unfold exec
  rw [ExceptT.run_bind, StateT.run_bind]
  generalize work.run.run state = left
  obtain ⟨a, left⟩ := left
  cases a <;> rfl

end RestM

namespace Call

variable {α : Type} (call : Call α)

/-- Waits as long as the limiter prescribes by now. -/
def wait : RestM Unit := .step fun state =>
  match call.delay state.limiter (unixSeconds state.now) with
  | .error e => (.error e, state)
  | .ok wait => (.ok (), state.wait wait)

def build (token : String) : RestM Request := .step fun state =>
  match call.request? token with
  | none => (.error (.http none false), state)
  | some request => (.ok request, state)

def execute (request : Request) : RestM Response := .step fun state =>
  match state.answer? with
  | none => (.error (.http none false), state.send request)
  | some response => (.ok response, state.send request)

def report (response : Response) (now : Int) : Report :=
  ⟨response.headers, call.object, call.kind, unixSeconds now⟩

def observe (response : Response) : RestM Unit := .step fun state =>
  let report := call.report response state.now
  match state.limiter.observe report.headers report.object report.kind report.time with
  | .error e => (.error (.rateLimit e), state.note (.observed report))
  | .ok limiter => (.ok (), state.tell limiter report)

def read (response : Response) : RestM α := .step fun state => (call.judge response, state)

def steps (token : String) : RestM α := do
  call.wait
  let request ← call.build token
  let response ← execute request
  call.observe response
  call.read response

def isNamed : Bool := call.kind == .global || call.object.isSome

/-- What an answer that was received comes to. -/
inductive Decides (response : Response) : Except ClientError α → Prop
  | unauthorized (hstatus : response.status = 401) :
      Decides response (.error (.authentication response.body))
  | failed (hstatus : 400 ≤ response.status ∧ response.status < 600)
      (hother : response.status ≠ 401) :
      Decides response (.error (.http (some response.status) false))
  | undecodable {e : DecodeError} (hstatus : ¬ (400 ≤ response.status ∧ response.status < 600))
      (hbody : Decoder.ofText call.decode response.body = .error e) :
      Decides response (.error (.http none true))
  | decoded {a : α} (hstatus : ¬ (400 ≤ response.status ∧ response.status < 600))
      (hbody : Decoder.ofText call.decode response.body = .ok a) : Decides response (.ok a)

/-- How a call can end, and what was done for it by then. -/
inductive Ends (token : String) (state : RestState) : Except ClientError α → RestState → Prop
  /-- Nothing was done at all. -/
  | unnamed (hkind : call.kind ≠ .global) (hobject : call.object = none) :
      Ends token state (.error (.rateLimit (.missingObject call.kind))) state
  /-- The token fits into no header. -/
  | unsendable {wait : Option Duration} (hnamed : call.isNamed = true)
      (hdelay : state.limiter.delay call.object call.kind (unixSeconds state.now) = .ok wait)
      (htoken : headerSafe token = false) :
      Ends token state (.error (.http none false)) (state.wait wait)
  | unanswered {wait : Option Duration} {request : Request} (hnamed : call.isNamed = true)
      (hdelay : state.limiter.delay call.object call.kind (unixSeconds state.now) = .ok wait)
      (hrequest : call.request? token = some request) (hanswer : state.answer? = none) :
      Ends token state (.error (.http none false)) ((state.wait wait).send request)
  | answered {wait : Option Duration} {request : Request} {response : Response}
      {limiter : RateLimiter} {result : Except ClientError α} (hnamed : call.isNamed = true)
      (hdelay : state.limiter.delay call.object call.kind (unixSeconds state.now) = .ok wait)
      (hrequest : call.request? token = some request) (hanswer : state.answer? = some response)
      (hobserve : state.limiter.observe response.headers call.object call.kind
        (unixSeconds (state.wait wait).now) = .ok limiter)
      (hresult : call.Decides response result) :
      Ends token state result (((state.wait wait).send request).tell limiter
        (call.report response (state.wait wait).now))

/-! ### Steps -/

theorem decides_judge (response : Response) : call.Decides response (call.judge response) := by
  unfold judge
  split
  next hstatus => exact .unauthorized hstatus
  next hother =>
    split
    next hstatus => exact .failed hstatus hother
    next hstatus =>
      split
      next a hbody => exact .decoded hstatus hbody
      next e hbody => exact .undecodable hstatus hbody

variable {call}

/-- A call whose bucket can be named is told how long to wait. -/
theorem exists_delay_eq (hnamed : call.isNamed = true) (limiter : RateLimiter) (now : Float) :
    ∃ wait, limiter.delay call.object call.kind now = .ok wait := by
  obtain ⟨method, route, object, kind, body, decode⟩ := call
  cases kind <;> cases object <;>
    simp_all [isNamed, RateLimiter.delay, BucketKey.resolve, Except.map]

theorem delay_eq_of_unnamed (hnamed : call.isNamed = false) (limiter : RateLimiter)
    (now : Float) : call.kind ≠ .global ∧ call.object = none ∧
      limiter.delay call.object call.kind now = .error (.missingObject call.kind) := by
  obtain ⟨method, route, object, kind, body, decode⟩ := call
  cases kind <;> cases object <;>
    simp_all [isNamed, RateLimiter.delay, BucketKey.resolve, Except.map]

/-- The limiter takes in every answer to a call whose bucket can be named. -/
theorem observe_eq_of_named (hnamed : call.isNamed = true) (limiter : RateLimiter)
    (response : Response) (now : Int) :
    limiter.observe response.headers call.object call.kind (unixSeconds now) =
      .ok (limiter.take (call.report response now)) := by
  refine limiter.observe_eq_take fun hrefused => ?_
  have hkind := hrefused.kind
  have hobject := hrefused.object
  simp_all [isNamed]

theorem request?_eq_none_iff {token : String} :
    call.request? token = none ↔ headerSafe token = false := by
  simp [request?]

/-- An answer that the limiter takes in is reported and read. -/
theorem exec_observe_read (response : Response) (state : RestState) :
    (call.observe response >>= fun _ => call.read response).exec state =
      match state.limiter.observe response.headers call.object call.kind
          (unixSeconds state.now) with
      | .error e => (.error (.rateLimit e), state.note (.observed (call.report response state.now)))
      | .ok limiter =>
        (call.judge response, state.tell limiter (call.report response state.now)) := by
  simp only [RestM.exec_bind, observe, report, RestM.exec_step]
  cases state.limiter.observe response.headers call.object call.kind (unixSeconds state.now) <;> rfl

/-- The steps of a call put together. -/
theorem exec_steps (token : String) (state : RestState) :
    (call.steps token).exec state =
      match call.delay state.limiter (unixSeconds state.now) with
      | .error e => (.error e, state)
      | .ok wait =>
        match call.request? token with
        | none => (.error (.http none false), state.wait wait)
        | some request =>
          match state.answer? with
          | none => (.error (.http none false), (state.wait wait).send request)
          | some response =>
            (call.observe response >>= fun _ => call.read response).exec
              ((state.wait wait).send request) := by
  have hanswer (wait : Option Duration) : (state.wait wait).answer? = state.answer? := rfl
  simp only [steps, RestM.exec_bind, Call.wait, RestM.exec_step]
  cases call.delay state.limiter (unixSeconds state.now) with
  | error e => rfl
  | ok wait =>
      simp only [build, RestM.exec_step]
      cases call.request? token with
      | none => rfl
      | some request =>
          simp only [execute, RestM.exec_step, hanswer]
          cases state.answer? <;> rfl

/-- The work ends in one of the ways that are listed. -/
theorem ends_steps (token : String) (state : RestState) :
    call.Ends token state ((call.steps token).exec state).1 ((call.steps token).exec state).2 := by
  rw [exec_steps]
  cases hnamed : call.isNamed with
  | false =>
      obtain ⟨hkind, hobject, hdelay⟩ :=
        delay_eq_of_unnamed hnamed state.limiter (unixSeconds state.now)
      simp only [Call.delay, hdelay, Except.mapError]
      exact .unnamed hkind hobject
  | true =>
      obtain ⟨wait, hdelay⟩ := exists_delay_eq hnamed state.limiter (unixSeconds state.now)
      simp only [Call.delay, hdelay, Except.mapError]
      cases hrequest : call.request? token with
      | none => exact .unsendable hnamed hdelay (request?_eq_none_iff.1 hrequest)
      | some request =>
          cases hanswer : state.answer? with
          | none => exact .unanswered hnamed hdelay hrequest hanswer
          | some response =>
              have hobserve :=
                observe_eq_of_named hnamed state.limiter response (state.wait wait).now
              simp only [exec_observe_read, RestState.limiter_send, RestState.limiter_wait,
                RestState.now_send, hobserve]
              exact .answered hnamed hdelay hrequest hanswer hobserve (call.decides_judge response)

/-- What the steps come to is what the call as a whole is said to come to. -/
theorem perform_eq (token : String) (state : RestState) :
    let later := state.now + call.pause state.limiter state.now
    let outcome := call.perform state.limiter token state.now later state.answer?
    ((call.steps token).exec state).1 = outcome.2.result ∧
      ((call.steps token).exec state).2.limiter = outcome.1 := by
  simp only [exec_steps, perform, pause]
  cases call.delay state.limiter (unixSeconds state.now) with
  | error e => exact ⟨rfl, rfl⟩
  | ok wait =>
      cases call.request? token with
      | none => exact ⟨rfl, rfl⟩
      | some request =>
          cases state.answer? with
          | none => exact ⟨rfl, rfl⟩
          | some response =>
              simp only [exec_observe_read, conclude, RestState.limiter_send,
                RestState.limiter_wait, RestState.now_send, RestState.now_wait]
              cases state.limiter.observe response.headers call.object call.kind
                (unixSeconds (state.now + Duration.pause wait)) <;> exact ⟨rfl, rfl⟩

end Call

/-! ### Sequences -/

/-- A call with the time of day at which it begins. -/
structure TimedCall where
  {α : Type}
  call : Call α
  start : Int

namespace TimedCall

def run (token : String) (timed : TimedCall) (state : RestState) :
    Except ClientError timed.α × RestState :=
  (timed.call.steps token).exec { state with now := timed.start }

def request? (token : String) (timed : TimedCall) : Option Request :=
  if timed.call.isNamed then timed.call.request? token else none

def sends (token : String) (timed : TimedCall) : Bool := (timed.request? token).isSome

/-- What the limiter is to be told of an answer, but for the time. -/
def reportFields (timed : TimedCall) (answer : Option Response) :
    Option (Headers × Option Snowflake × BucketKind) :=
  answer.map fun response => (response.headers, timed.call.object, timed.call.kind)

/-- What the limiter is to be told of the answers to some calls. The calls that send a request take
the answers in turn. -/
def expectedReports (token : String) (calls : List TimedCall) (answers : List (Option Response)) :
    List (Headers × Option Snowflake × BucketKind) :=
  ((calls.filter (sends token)).zip answers).filterMap fun (timed, answer) =>
    timed.reportFields answer

theorem expectedReports_cons_of_silent {token : String} {timed : TimedCall}
    (h : timed.request? token = none) (calls : List TimedCall)
    (answers : List (Option Response)) :
    expectedReports token (timed :: calls) answers = expectedReports token calls answers := by
  simp [expectedReports, sends, h]

theorem expectedReports_cons_of_sends {token : String} {timed : TimedCall} {request : Request}
    (h : timed.request? token = some request) (calls : List TimedCall)
    (answers : List (Option Response)) :
    expectedReports token (timed :: calls) answers =
      (timed.reportFields answers.head?.join).toList ++
        expectedReports token calls answers.tail := by
  have hsends : timed.sends token = true := by simp [sends, h]
  cases answers with
  | nil => simp [expectedReports, reportFields]
  | cons answer answers =>
      simp only [expectedReports, List.filter_cons, hsends, if_true, List.zip_cons_cons,
        List.filterMap_cons, List.head?_cons, Option.join_some, List.tail_cons]
      cases timed.reportFields answer <;> rfl

end TimedCall

namespace RestState

def after (token : String) (state : RestState) (calls : List TimedCall) : RestState :=
  calls.foldl (fun state timed => (timed.run token state).2) state

@[simp] theorem requests_note (state : RestState) (effect : Call.Effect) :
    (state.note effect).requests = state.requests ++ effect.request?.toList := by
  simp only [requests, note, List.filterMap_append, List.filterMap_cons, List.filterMap_nil]
  cases effect.request? <;> rfl

@[simp] theorem reports_note (state : RestState) (effect : Call.Effect) :
    (state.note effect).reports = state.reports ++ effect.report?.toList := by
  simp only [reports, note, List.filterMap_append, List.filterMap_cons, List.filterMap_nil]
  cases effect.report? <;> rfl

@[simp] theorem requests_wait (state : RestState) (wait : Option Duration) :
    (state.wait wait).requests = state.requests := (requests_note ..).trans (List.append_nil _)

@[simp] theorem reports_wait (state : RestState) (wait : Option Duration) :
    (state.wait wait).reports = state.reports := (reports_note ..).trans (List.append_nil _)

@[simp] theorem requests_send (state : RestState) (request : Request) :
    (state.send request).requests = state.requests ++ [request] := requests_note ..

@[simp] theorem reports_send (state : RestState) (request : Request) :
    (state.send request).reports = state.reports := (reports_note ..).trans (List.append_nil _)

@[simp] theorem requests_tell (state : RestState) (limiter : RateLimiter) (report : Report) :
    (state.tell limiter report).requests = state.requests :=
  (requests_note ..).trans (List.append_nil _)

@[simp] theorem reports_tell (state : RestState) (limiter : RateLimiter) (report : Report) :
    (state.tell limiter report).reports = state.reports ++ [report] := reports_note ..

/-- What calls have done between two states of the state. Each that sends a request has taken one of
the answers, and those answers that were received have gone to the limiter, in this order. -/
structure Follows (token : String) (calls : List TimedCall) (before state : RestState) : Prop where
  requests : state.requests = before.requests ++ calls.filterMap (TimedCall.request? token)
  answers : state.answers = before.answers.drop (calls.filter (TimedCall.sends token)).length
  reports : ∃ reports : List Report, state.reports = before.reports ++ reports ∧
    before.limiter.observeAll reports = .ok state.limiter ∧
    reports.map (fun report => (report.headers, report.object, report.kind)) =
      TimedCall.expectedReports token calls before.answers

variable {token : String} {timed : TimedCall} {calls : List TimedCall} {state before : RestState}

theorem Follows.refl (state : RestState) : Follows token [] state state where
  requests := by simp
  answers := by simp
  reports := ⟨[], by simp, rfl, rfl⟩

/-- The first of some calls, and those after it. -/
theorem Follows.cons {between : RestState} (h : Follows token [timed] before between)
    (hnext : Follows token calls between state) :
    Follows token (timed :: calls) before state := by
  obtain ⟨reports, hreports, hlimiter, hexpected⟩ := h.reports
  obtain ⟨later, hlater, hlast, hrest⟩ := hnext.reports
  refine ⟨?_, ?_, reports ++ later, ?_, ?_, ?_⟩
  · rw [hnext.requests, h.requests, List.append_assoc, ← List.filterMap_append]
    rfl
  · rw [hnext.answers, h.answers, List.drop_drop, ← List.length_append, ← List.filter_append]
    rfl
  · rw [hlater, hreports, List.append_assoc]
  · rw [RateLimiter.observeAll, List.foldlM_append]
    exact (congrArg (· >>= _) hlimiter).trans hlast
  · rw [List.map_append, hexpected, hrest, h.answers]
    cases hrequest : timed.request? token with
    | none =>
        simp only [TimedCall.expectedReports_cons_of_silent hrequest]
        simp [TimedCall.expectedReports, TimedCall.sends, hrequest]
    | some request =>
        simp only [TimedCall.expectedReports_cons_of_sends hrequest]
        simp [TimedCall.expectedReports, TimedCall.sends, hrequest]

/-- A call that sends nothing leaves the answers and the limiter as they are. -/
theorem Follows.of_silent (hrequest : timed.request? token = none)
    (hrequests : state.requests = before.requests) (hanswers : state.answers = before.answers)
    (hreports : state.reports = before.reports) (hlimiter : state.limiter = before.limiter) :
    Follows token [timed] before state where
  requests := by simp [hrequest, hrequests]
  answers := by simp [TimedCall.sends, hrequest, hanswers]
  reports := ⟨[], by simp [hreports], congrArg Except.ok hlimiter.symm, by
    simp [TimedCall.expectedReports, TimedCall.sends, hrequest]⟩

/-- A call that sends a request takes the next answer and reports it, if there is one. -/
theorem Follows.of_sends (reports : List Report) {request : Request}
    (hrequest : timed.request? token = some request)
    (hrequests : state.requests = before.requests ++ [request])
    (hanswers : state.answers = before.answers.tail)
    (hreports : state.reports = before.reports ++ reports)
    (hlimiter : before.limiter.observeAll reports = .ok state.limiter)
    (hexpected : reports.map (fun report => (report.headers, report.object, report.kind)) =
      (timed.reportFields before.answer?).toList) :
    Follows token [timed] before state where
  requests := by simp [hrequest, hrequests]
  answers := by simp [TimedCall.sends, hrequest, hanswers]
  reports := ⟨reports, hreports, hlimiter, by
    rw [hexpected, TimedCall.expectedReports_cons_of_sends hrequest]
    simp [TimedCall.expectedReports, answer?]⟩

/-- However a call ends, it takes no more than one answer, and reports one that it receives. -/
theorem Follows.of_ends {α : Type} {call : Call α} {result : Except ClientError α} {start : Int}
    (h : call.Ends token { before with now := start } result state) :
    Follows token [⟨call, start⟩] before state := by
  cases h with
  | unnamed hkind hobject =>
      have hrequest : TimedCall.request? token ⟨call, start⟩ = none := by
        simp [TimedCall.request?, Call.isNamed, hkind, hobject]
      exact .of_silent hrequest rfl rfl rfl rfl
  | unsendable hnamed hdelay htoken =>
      have hrequest : TimedCall.request? token ⟨call, start⟩ = none := by
        simp [TimedCall.request?, Call.request?, htoken]
      exact .of_silent hrequest (requests_wait ..) rfl (reports_wait ..) rfl
  | unanswered hnamed hdelay hrequest hanswer =>
      have hanswer : before.answer? = none := hanswer
      refine Follows.of_sends [] ((if_pos hnamed).trans hrequest) ?_ rfl ?_ rfl ?_
      · rw [requests_send, requests_wait]
        rfl
      · rw [reports_send, reports_wait, List.append_nil]
        rfl
      · simp [hanswer, TimedCall.reportFields]
  | @answered wait _ response limiter _ hnamed hdelay hrequest hanswer hobserve hresult =>
      have hanswer : before.answer? = some response := hanswer
      set report := call.report response
        (RestState.wait { before with now := start } wait).now with hreport
      have htake : before.limiter.observeAll [report] = .ok limiter :=
        congrArg (· >>= pure) hobserve
      refine Follows.of_sends [report] ((if_pos hnamed).trans hrequest) ?_ rfl ?_ htake ?_
      · rw [requests_tell, requests_send, requests_wait]
        rfl
      · rw [reports_tell, reports_send, reports_wait]
        rfl
      · simp [hanswer, TimedCall.reportFields, hreport, Call.report]

/-- What calls do that are made one after another. -/
theorem follows_after (token : String) (calls : List TimedCall) (state : RestState) :
    Follows token calls state (state.after token calls) := by
  induction calls generalizing state with
  | nil => exact .refl state
  | cons timed calls ih =>
      -- the time of day is what the call finds, and is not among what is carried on
      have hends := timed.call.ends_steps token { state with now := timed.start }
      exact (Follows.of_ends hends).cons (ih _)

end RestState

/-- Calls made one after another, and the next. The limiter has observed the answers that were
received, in their order, each for its own call, and no answer was kept from it. The calls that can
be made sent one request each. The next call ends in one of the ways that are listed, which is what
the call as a whole comes to; a wait passes to the millisecond. -/
theorem calls_feed_limiter (limiter : RateLimiter) (answers : List (Option Response))
    (token : String) (calls : List TimedCall) (next : TimedCall) :
    let state := RestState.after token ⟨limiter, 0, answers, []⟩ calls
    let made := next.run token state
    let later := next.start + next.call.pause state.limiter next.start
    let outcome := next.call.perform state.limiter token next.start later state.answer?
    (limiter.observeAll state.reports = .ok state.limiter ∧
      state.reports.map (fun report => (report.headers, report.object, report.kind)) =
        TimedCall.expectedReports token calls answers) ∧
    (state.requests = calls.filterMap (TimedCall.request? token) ∧
      state.answer? = (answers.drop (calls.filter (TimedCall.sends token)).length).head?.join) ∧
    next.call.Ends token { state with now := next.start } made.1 made.2 ∧
    (made.1 = outcome.2.result ∧ made.2.limiter = outcome.1) ∧
    ∀ d : Duration, d.nanoseconds ≤ Duration.pause (some d) * 1000000 ∧
      Duration.pause (some d) * 1000000 < d.nanoseconds + 1000000 := by
  intro state made later outcome
  have hfollows := RestState.follows_after token calls ⟨limiter, 0, answers, []⟩
  obtain ⟨reports, hreports, hlimiter, hexpected⟩ := hfollows.reports
  have hreports : state.reports = reports := hreports
  refine ⟨⟨hreports ▸ hlimiter, hreports ▸ hexpected⟩, ⟨hfollows.requests, ?_⟩,
    next.call.ends_steps token _, Call.perform_eq token { state with now := next.start },
    Duration.pause_some_bounds⟩
  rw [RestState.answer?, hfollows.answers]

end ChatGateway
