import ChatGateway.Proofs.Client.Accounting
import ChatGateway.Proofs.Client.Progress

/-!
Taking up a session. A session is taken up where it was left, whatever was received before, on
however many connections (`resumes_at_position`).
-/

namespace ChatGateway.Client

open Account

/-- A session is taken up at the position that the frames say. A step asks for it at most once, and
takes in no frame then. What it asks for carries the token of the client, the session that was begun
last and has not become void since, and the last number since a session was void. By then the cache
has taken in every event that a frame named, and none of these events is under way: each has been
handed over, or waits for the session to be ready, unless it came in when the queue was full. This
holds in every history. -/
theorem resumes_at_position (config : Config) (handlers : Handlers) (moves : List Move)
    (move : Move) :
    let c := (fresh config handlers).run moves
    (c.step move).resumes = c.resumes ∨
      ∃ resume : Resume, (c.step move).resumes = resume :: c.resumes ∧
        (c.step move).frames = c.frames ∧ resume.token = config.token ∧
        Received.session? (Received.sinceVoid c.frames) = some resume.sessionId ∧
        resume.seq = Received.number? (Received.sinceVoid c.frames) ∧
        c.cache = (emptyCache config).applyAll (Received.dispatched c.frames) ∧
        Handover (freshDispatcher config).capacity
          ((emptyCache config).events (Received.dispatched c.frames)) c.dispatcher c.handed := by
  intro c
  have hstep : c.account.InStep := inStep_run _ (inStep_fresh config handlers) moves
  have hconfig : c.account.config = config := config_run _ moves
  rcases hstep.resumes_turn (account_step c hstep move) with
    hsame | ⟨resume, hwritten, hframes, htoken, hsession, hseq, hpending⟩
  · exact .inl hsame
  · have hcache := hstep.cache
    have hhandover := hstep.handover
    rw [hpending, List.append_nil] at hhandover
    unfold events at hhandover
    rw [hconfig] at htoken hcache hhandover
    exact .inr ⟨resume, hwritten, hframes, htoken, hsession, hseq, hcache, hhandover⟩

/-- The number of a frame that is not understood otherwise counts, too. -/
example :
    ((fresh { token := "t" } .none).run [.attach false,
      .frame { op := 0, event := some "READY", data := .object [("session_id", .string "abc")] },
      .frame { op := 42, sequence := some 7 }, .requestReconnect,
      .frame { op := 10, data := .object [("heartbeat_interval", .int 1000)] },
      .elapse 600000, .proceed, .proceed]).resumes = [⟨"t", "abc", some 7⟩] := by
  decide +kernel

end ChatGateway.Client
