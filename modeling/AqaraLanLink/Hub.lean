import AqaraLanLink.Json

/-!
# What the hub sends in a session

The hub answers requests and pushes messages of its own.  Which of the two a message is cannot be
seen from the message; it is what the two clients have to find out.
-/

namespace AqaraLanLink

/-- Why the hub sends a message. -/
inductive Origin where
  /-- It answers the request with this sequence number. -/
  | reply (seq : ℕ)
  /-- It sends it on its own. -/
  | push
  deriving DecidableEq, Repr

/-- The hub's `<cmd>_done` message for a request. -/
def Answers (message : Json) (seq : ℕ) (cmd : String) : Prop :=
  message.get? "seq" = some (.number seq) ∧
    message.get? "cmd" = some (.string (cmd ++ "_done"))

/-- A message is a report. -/
def IsReport (message : Json) : Prop :=
  message.get? "cmd" = some (.string "report")

theorem not_isReport_of_answers {message : Json} {seq : ℕ} {cmd : String}
    (answer : Answers message seq cmd) : ¬ IsReport message := by
  intro report
  have same : cmd ++ "_done" = "report" := by
    simpa using answer.2.symm.trans report
  have last := congrArg (fun text => text.toList.getLast?) same
  simp at last

/-- A message that can settle a request: one with a `seq` is an object. -/
structure Reply where
  /-- Its fields. -/
  fields : List (String × Json)

/-- The reply as the clients see it. -/
def Reply.message (reply : Reply) : Json := .object reply.fields

theorem exists_reply {message seq : Json} (numbered : message.get? "seq" = some seq) :
    ∃ reply : Reply, message = reply.message := by
  cases message with
  | object fields => exact ⟨⟨fields⟩, rfl⟩
  | _ => exact nomatch numbered

end AqaraLanLink
