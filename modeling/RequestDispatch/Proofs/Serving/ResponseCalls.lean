import Mathlib.Data.List.DropRight
import RequestDispatch.Proofs.Serving.Conduct

/-!
# Responses after any calls

What a response holds after any sequence of calls is an account of the calls since it was last started
anew: the first status or write decides its status, the writes are its body, and the header calls its
headers (`Response.written`).  Every answer that was taken is such an account of the calls before it
(`Response.calls_account`).
-/

namespace RequestDispatch

/-- A call that changes a response. -/
inductive ResponseCall where
  | commitStatus (status : Status)
  | write (bytes : Bytes)
  | setHeader (name : HeaderName) (value : HeaderValue)
  | addHeader (name : HeaderName) (value : HeaderValue)
  | take
  | reset
  deriving DecidableEq, Repr

namespace ResponseCall

/-- The response starts anew. -/
def restarts : ResponseCall → Bool
  | .take => true
  | .reset => true
  | _ => false

/-- The status that a call commits a new response with. -/
def status? : ResponseCall → Option Status
  | .commitStatus status => some status
  | .write _ => some .ok
  | _ => none

def bytes : ResponseCall → Bytes
  | .write bytes => bytes
  | _ => []

/-- The headers after a call. -/
def headers (before : Headers) : ResponseCall → Headers
  | .setHeader name value => before.insert name value
  | .addHeader name value => before.append name value
  | _ => before

/-- The calls since the last one that starts the response anew. -/
def recent (calls : List ResponseCall) : List ResponseCall := calls.rtakeWhile (!·.restarts)

theorem recent_concat (calls : List ResponseCall) (call : ResponseCall) :
    recent (calls ++ [call]) = if call.restarts then [] else recent calls ++ [call] := by
  rw [recent, List.rtakeWhile_concat]
  cases call.restarts <;> rfl

end ResponseCall

namespace Response

open ResponseCall

/-- The answer that a call hands out, if any, and the response that it leaves. -/
def call (r : Response) : ResponseCall → Option Answer × Response
  | .commitStatus status => (none, r.commitStatus status)
  | .write bytes => (none, r.write bytes)
  | .setHeader name value => (none, r.setHeader name value)
  | .addHeader name value => (none, r.addHeader name value)
  | .take => (some r.take.1, r.take.2)
  | .reset => (none, r.reset)

/-- The answers that calls hand out, in order, and the response after all of them. -/
def run (r : Response) : List ResponseCall → List Answer × Response
  | [] => ([], r)
  | c :: rest => ((r.call c).1.toList ++ ((r.call c).2.run rest).1, ((r.call c).2.run rest).2)

/-- A new response after calls none of which starts it anew. -/
def written (calls : List ResponseCall) : Response where
  status := (calls.findSome? status?).getD .ok
  headers := calls.foldl ResponseCall.headers []
  body := calls.flatMap bytes
  committed := (calls.findSome? status?).isSome

theorem run_append (r : Response) (calls more : List ResponseCall) :
    r.run (calls ++ more) = ((r.run calls).1 ++ ((r.run calls).2.run more).1, ((r.run calls).2.run more).2) := by
  induction calls generalizing r with
  | nil => rfl
  | cons c rest ih => rw [List.cons_append, run, ih, run, List.append_assoc]

theorem call_of_restarts {c : ResponseCall} (h : c.restarts = true) (r : Response) :
    (r.call c).2 = fresh := by
  cases c <;> first | rfl | cases h

/-- A call that does not start the response anew adds to the account of those before it. -/
theorem written_call (calls : List ResponseCall) {c : ResponseCall} (h : c.restarts = false) :
    ((written calls).call c).2 = written (calls ++ [c]) := by
  cases c with
  | commitStatus status =>
    cases first : calls.findSome? status? <;>
      simp [call, commitStatus, written, List.findSome?_append, first, status?, bytes,
        ResponseCall.headers]
  | write bytes =>
    cases first : calls.findSome? status? <;>
      simp [call, write, commitStatus, written, List.findSome?_append, first, status?,
        ResponseCall.bytes, ResponseCall.headers]
  | setHeader name value =>
    simp [call, setHeader, written, List.findSome?_append, status?, bytes, ResponseCall.headers]
  | addHeader name value =>
    simp [call, addHeader, written, List.findSome?_append, status?, bytes, ResponseCall.headers]
  | take => cases h
  | reset => cases h

/-- After any calls a new response is the account of those since it was last started anew. -/
theorem run_eq_written (calls : List ResponseCall) : (fresh.run calls).2 = written (recent calls) := by
  induction calls using List.reverseRecOn with
  | nil => rfl
  | append_singleton calls c ih =>
    have last : (fresh.run (calls ++ [c])).2 = ((written (recent calls)).call c).2 := by
      rw [run_append, ih]
      rfl
    rw [last, recent_concat]
    cases restarting : c.restarts with
    | true => exact call_of_restarts restarting _
    | false => exact written_call _ restarting

/-- A status that is committed stays until the response is started anew. -/
theorem call_status {r : Response} (committed : r.committed = true) {c : ResponseCall}
    (h : c.restarts = false) : (r.call c).2.committed = true ∧ (r.call c).2.status = r.status := by
  cases c with
  | commitStatus status => simp [call, commitStatus, committed]
  | write bytes => simp [call, write, committed]
  | setHeader name value => exact ⟨committed, rfl⟩
  | addHeader name value => exact ⟨committed, rfl⟩
  | take => cases h
  | reset => cases h

theorem run_status {r : Response} (committed : r.committed = true) {calls : List ResponseCall}
    (h : ∀ c ∈ calls, c.restarts = false) : (r.run calls).2.status = r.status := by
  induction calls generalizing r with
  | nil => rfl
  | cons c rest ih =>
    obtain ⟨first, others⟩ := List.forall_mem_cons.mp h
    obtain ⟨still, same⟩ := call_status committed first
    exact (ih still others).trans same

theorem call_sound {r : Response} (sound : r.Sound) (c : ResponseCall) : (r.call c).2.Sound := by
  cases c with
  | commitStatus status => exact r.commitStatus_sound status
  | write bytes => exact r.write_sound bytes
  | setHeader name value => exact sound.setHeader name value
  | addHeader name value => exact sound.addHeader name value
  | take => exact fresh_sound
  | reset => exact fresh_sound

theorem run_sound {r : Response} (sound : r.Sound) (calls : List ResponseCall) :
    (r.run calls).2.Sound := by
  induction calls generalizing r with
  | nil => exact sound
  | cons c rest ih => exact ih (call_sound sound c)

/-- What a new response holds after any calls, and what it answers when it is taken then.  The account is
of the calls since it was last started anew; a status that is committed stays whatever is called before it
starts anew again; and taking it hands out the account and leaves a new response. -/
theorem calls_account (calls : List ResponseCall) :
    let r := (fresh.run calls).2
    r = written (recent calls) ∧ r.Sound ∧ r.size = ((recent calls).flatMap bytes).length ∧
      (r.committed = true → ∀ later, (∀ c ∈ later, c.restarts = false) →
        (fresh.run (calls ++ later)).2.status = r.status) ∧
      (fresh.run (calls ++ [.take])).2 = fresh ∧
      ∀ later, (fresh.run (calls ++ .take :: later)).1 =
        (fresh.run calls).1 ++ ⟨r.status, r.headers, r.body⟩ :: (fresh.run later).1 := by
  intro r
  have account : r = written (recent calls) := run_eq_written calls
  refine ⟨account, run_sound fresh_sound calls, congrArg size account, ?_, ?_, ?_⟩
  · intro committed later goesOn
    rw [run_append]
    exact run_status committed goesOn
  · rw [run_append]
    rfl
  · intro later
    rw [run_append]
    rfl

/-- The first write commits with 200 though it writes nothing; the status that comes after it is
ignored, and the second answer knows nothing of the first. -/
example :
    (fresh.run [.write [], .commitStatus .noContent, .write [104, 105], .take, .commitStatus .noContent,
      .take]).1 = [⟨.ok, [], [104, 105]⟩, ⟨.noContent, [], []⟩] := by
  decide

end Response
end RequestDispatch
