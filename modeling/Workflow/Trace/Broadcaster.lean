import Workflow.Trace.Entry

/-!
# The broadcaster

The broadcaster keeps every entry recorded under an execution id and pushes it to the sockets that
watch that id.  A socket to which a push fails is dropped from that id.  Every attempt to push is
kept, so what a socket received can be read off.
-/

namespace Workflow

/-- A socket, by number. -/
abbrev SocketId := Nat

/-- An attempt to push a payload to a socket. -/
structure Attempt where
  socket : SocketId
  payload : Value
  delivered : Bool

/-- Entries and watchers by execution id. -/
structure Broadcaster where
  entries : List (String × List Entry) := []
  watchers : List (String × List SocketId) := []
  attempts : List Attempt := []
  /-- Whether the push with a given number, counted from zero for each socket, succeeds. -/
  succeeds : SocketId → Nat → Bool := fun _ _ => true

namespace Broadcaster

/-- Append to the list kept under an id, which is begun when there is none. -/
def appendUnder {α : Type} (id : String) (item : α) :
    List (String × List α) → List (String × List α)
  | [] => [(id, [item])]
  | (known, items) :: rest =>
    if known = id then (known, items ++ [item]) :: rest
    else (known, items) :: appendUnder id item rest

/-- The list kept under an id, empty when there is none. -/
def under {α : Type} (id : String) (lists : List (String × List α)) : List α :=
  ((lists.find? (·.1 = id)).map (·.2)).getD []

/-- Appending under an id adds one item to its list and leaves the other lists alone. -/
theorem under_appendUnder {α : Type} (id : String) (item : α) (lists : List (String × List α))
    (wanted : String) :
    under wanted (appendUnder id item lists) =
      if id = wanted then under wanted lists ++ [item] else under wanted lists := by
  induction lists with
  | nil => by_cases same : id = wanted <;> simp [appendUnder, under, same]
  | cons kept rest ih =>
    obtain ⟨known, items⟩ := kept
    by_cases here : known = id
    · subst here
      by_cases same : known = wanted <;> simp [appendUnder, under, same]
    · by_cases found : known = wanted
      · subst found
        simp [appendUnder, under, here, Ne.symm here]
      · simp only [under] at ih
        simp [appendUnder, under, here, found, ih]

/-- The sockets that watch an id, in order of registration. -/
def watchersOf (hub : Broadcaster) (id : String) : List SocketId := under id hub.watchers

/-- Let a socket watch an id. -/
def add (hub : Broadcaster) (id : String) (socket : SocketId) : Broadcaster :=
  { hub with watchers := appendUnder id socket hub.watchers }

/-- Remove the first registration of a socket from the lists; an emptied list is dropped. -/
def withoutSocket (id : String) (socket : SocketId) :
    List (String × List SocketId) → List (String × List SocketId)
  | [] => []
  | (known, sockets) :: rest =>
    if known = id then
      let left := sockets.erase socket
      if left.isEmpty then rest else (known, left) :: rest
    else (known, sockets) :: withoutSocket id socket rest

/-- Take back one registration of a socket under an id; without one nothing changes. -/
def remove (hub : Broadcaster) (id : String) (socket : SocketId) : Broadcaster :=
  { hub with watchers := withoutSocket id socket hub.watchers }

/-- The number of pushes tried to a socket. -/
def attemptsTo (hub : Broadcaster) (socket : SocketId) : Nat :=
  hub.attempts.countP (·.socket = socket)

/-- Push a payload to one socket, and drop the socket from the id when that fails. -/
def push (id : String) (payload : Value) (hub : Broadcaster) (socket : SocketId) : Broadcaster :=
  let delivered := hub.succeeds socket (hub.attemptsTo socket)
  let hub := { hub with attempts := hub.attempts ++ [⟨socket, payload, delivered⟩] }
  if delivered then hub else hub.remove id socket

/-- Push a payload to every socket that watches an id at this time. -/
def broadcast (hub : Broadcaster) (id : String) (payload : Value) : Broadcaster :=
  (hub.watchersOf id).foldl (push id payload) hub

/-- The frame that carries an entry. -/
def logFrame (entry : Entry) : Except Fault Value :=
  entry.write.map fun written => .obj (("type", .str "log") :: written)

/-- The frame that carries the status of an execution. -/
def statusFrame (id status : String) : Value :=
  .obj [("type", .str "status"), ("run_id", .str id), ("status", .str status)]

/-- Keep an entry under an id. -/
def keep (hub : Broadcaster) (id : String) (entry : Entry) : Broadcaster :=
  { hub with entries := appendUnder id entry hub.entries }

/-- Record an entry under an id and push it to the watchers.  An entry that cannot be written is
kept but not pushed. -/
def record (hub : Broadcaster) (id : String) (entry : Entry) : Except Fault Unit × Broadcaster :=
  let hub := hub.keep id entry
  match logFrame entry with
  | .ok frame => (.ok (), hub.broadcast id frame)
  | .error cause => (.error cause, hub)

/-- Tell the watchers of an id how it ended. -/
def finish (hub : Broadcaster) (id status : String) : Broadcaster :=
  hub.broadcast id (statusFrame id status)

/-- All entries recorded under an id. -/
def entriesOf (hub : Broadcaster) (id : String) : List Entry := under id hub.entries

/-- The entries under an id, with a cursor in milliseconds only those after it.  A timestamp whose
zone is known cannot be compared with a cursor. -/
def entriesAfter (hub : Broadcaster) (id : String) (cursor : Value) :
    Except Fault (List Entry) := do
  if !cursor.isTruthy then return hub.entriesOf id
  else
    let moment ← Moment.ofMillis cursor
    if (hub.entriesOf id).any (·.time.zone.isSome) then
      .error (.reported .type "can't compare offset-naive and offset-aware datetimes")
    else return (hub.entriesOf id).filter fun entry => moment.micros < entry.time.moment.micros

/-- Whether an entry tells that the step at a position finished. -/
def isFinishOf (index : Int) (entry : Entry) : Bool :=
  entry.index = index ∧ entry.phase = .finished

/-- Give the first entry that tells that a step finished another output. -/
def amendFirst (index : Int) (output : Value) : List Entry → List Entry
  | [] => []
  | entry :: rest =>
    if isFinishOf index entry then { entry with output } :: rest
    else entry :: amendFirst index output rest

/-- Give the last entry that tells that a step finished another output. -/
def amendLast (index : Int) (output : Value) (entries : List Entry) : List Entry :=
  (amendFirst index output entries.reverse).reverse

/-- The finished entry of a step shows what its output object has become. -/
def amend (hub : Broadcaster) (id : String) (index : Int) (output : Value) : Broadcaster :=
  { hub with
    entries := hub.entries.map fun kept =>
      if kept.1 = id then (kept.1, amendLast index output kept.2) else kept }

/-- What a socket received, in order. -/
def received (hub : Broadcaster) (socket : SocketId) : List Value :=
  (hub.attempts.filter fun attempt => attempt.socket = socket ∧ attempt.delivered).map (·.payload)

/-- The number of sockets that watch, counted by registration. -/
def activeSockets (hub : Broadcaster) : Nat :=
  hub.watchers.foldr (fun watched total => watched.2.length + total) 0

/-- The number of recorded entries. -/
def totalEntries (hub : Broadcaster) : Nat :=
  hub.entries.foldr (fun kept total => kept.2.length + total) 0

/-- Counters for monitoring. -/
def stats (hub : Broadcaster) : Object :=
  [("traced_executions", .ofNat hub.entries.length), ("total_logs", .ofNat hub.totalEntries),
    ("active_websockets", .ofNat hub.activeSockets)]

end Broadcaster

end Workflow
