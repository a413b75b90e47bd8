import Mathlib.Logic.Function.Iterate
import Workflow.Proofs.Trace.Broadcast
import Workflow.Proofs.Value.Nesting

/-!
# Fan-out

A frame is pushed once for each registration under its id, in the order of registration, whatever
becomes of the pushes before it.  A push that fails takes back one registration of its socket under
that id and nothing else.  So what one socket receives is told by its own registrations and its own
failures.
-/

namespace Workflow.Broadcaster

variable {hub : Broadcaster} {id : String} {socket other : SocketId}

/-! ## Registrations -/

/-- Every id is listed once, with the sockets that watch it, and with one at least. -/
structure Tidy (hub : Broadcaster) : Prop where
  nodup : (hub.watchers.map (·.1)).Nodup
  nonempty : ∀ watched ∈ hub.watchers, watched.2 ≠ []

theorem Tidy.add (tidy : hub.Tidy) (id : String) (socket : SocketId) : (hub.add id socket).Tidy := by
  refine ⟨nodup_ids_appendUnder socket tidy.nodup, ?_⟩
  have grown (lists : List (String × List SocketId)) (nonempty : ∀ watched ∈ lists, watched.2 ≠ []) :
      ∀ watched ∈ appendUnder id socket lists, watched.2 ≠ [] := by
    induction lists with
    | nil => simp [appendUnder]
    | cons kept rest ih =>
        obtain ⟨here, later⟩ := List.forall_mem_cons.1 nonempty
        rw [appendUnder]
        split
        · exact List.forall_mem_cons.2 ⟨by simp, later⟩
        · exact List.forall_mem_cons.2 ⟨here, ih later⟩
  exact grown hub.watchers tidy.nonempty

theorem Tidy.remove (tidy : hub.Tidy) (id : String) (socket : SocketId) :
    (hub.remove id socket).Tidy := by
  refine ⟨(ids_withoutSocket_sublist hub.watchers).nodup tidy.nodup, ?_⟩
  have left (lists : List (String × List SocketId)) (nonempty : ∀ watched ∈ lists, watched.2 ≠ []) :
      ∀ watched ∈ withoutSocket id socket lists, watched.2 ≠ [] := by
    induction lists with
    | nil => simp [withoutSocket]
    | cons kept rest ih =>
        obtain ⟨here, later⟩ := List.forall_mem_cons.1 nonempty
        unfold withoutSocket
        dsimp only
        split
        · split
          · exact later
          · rename_i filled
            exact List.forall_mem_cons.2 ⟨fun emptied => filled (List.isEmpty_iff.2 emptied), later⟩
        · exact List.forall_mem_cons.2 ⟨here, ih later⟩
  exact left hub.watchers tidy.nonempty

/-- A new registration is an active one. -/
theorem activeSockets_add (hub : Broadcaster) (id : String) (socket : SocketId) :
    (hub.add id socket).activeSockets = hub.activeSockets + 1 := by
  have grown (lists : List (String × List SocketId)) :
      (appendUnder id socket lists).foldr (fun watched total => watched.2.length + total) 0 =
        lists.foldr (fun watched total => watched.2.length + total) 0 + 1 := by
    induction lists with
    | nil => rfl
    | cons kept rest ih =>
        rw [appendUnder]
        split
        · simp only [List.foldr_cons, List.length_append, List.length_singleton]
          omega
        · simp only [List.foldr_cons, ih]
          omega
  exact grown hub.watchers

/-- A registration that is taken back was one of the active ones. -/
theorem activeSockets_remove (hub : Broadcaster) (id : String) (socket : SocketId) :
    (hub.remove id socket).activeSockets + (if socket ∈ hub.watchersOf id then 1 else 0) =
      hub.activeSockets := by
  have left (lists : List (String × List SocketId)) :
      (withoutSocket id socket lists).foldr (fun watched total => watched.2.length + total) 0 +
          (if socket ∈ under id lists then 1 else 0) =
        lists.foldr (fun watched total => watched.2.length + total) 0 := by
    induction lists with
    | nil => simp [withoutSocket]
    | cons kept rest ih =>
        obtain ⟨known, sockets⟩ := kept
        have length_eq : (sockets.erase socket).length + (if socket ∈ sockets then 1 else 0) =
            sockets.length := by
          rw [List.length_erase]
          split
          · rename_i member
            have nonempty := List.length_pos_of_mem member
            omega
          · rfl
        unfold withoutSocket
        dsimp only
        rw [under_cons]
        by_cases here : known = id
        · rw [if_pos here, if_pos here, List.foldr_cons]
          split
          · rename_i emptied
            rw [List.isEmpty_iff.1 emptied, List.length_nil] at length_eq
            dsimp only
            omega
          · rw [List.foldr_cons]
            dsimp only
            omega
        · rw [if_neg here, if_neg here, List.foldr_cons, List.foldr_cons, ← ih]
          omega
  exact left hub.watchers

theorem watchersOf_remove (tidy : hub.Tidy) (id wanted : String) (socket : SocketId) :
    (hub.remove id socket).watchersOf wanted =
      if id = wanted then (hub.watchersOf wanted).erase socket else hub.watchersOf wanted :=
  under_withoutSocket tidy.nodup

/-! ## Pushes -/

/-- The sockets to which pushes failed, in order. -/
def lost (pushes : List Attempt) : List SocketId :=
  (pushes.filter fun push => !push.delivered).map (·.socket)

theorem count_foldl_erase (sockets gone : List SocketId) (socket : SocketId) :
    (gone.foldl List.erase sockets).count socket = sockets.count socket - gone.count socket := by
  induction gone generalizing sockets with
  | nil => rfl
  | cons first rest ih =>
      rw [List.foldl_cons, ih, List.count_erase, List.count_cons]
      omega

/-- A frame is pushed to sockets under an id: each push is tried, in order, and each that fails takes
back one registration of its socket under that id. -/
structure Pushes (hub : Broadcaster) (id : String) (frame : Value) (sockets : List SocketId)
    (pushes : List Attempt) (after : Broadcaster) : Prop where
  attempts_eq : after.attempts = hub.attempts ++ pushes
  sockets_eq : pushes.map (·.socket) = sockets
  frame_eq : ∀ push ∈ pushes, push.payload = frame
  watchersOf_eq : after.watchersOf id = (lost pushes).foldl List.erase (hub.watchersOf id)
  others_eq : ∀ wanted, wanted ≠ id → after.watchersOf wanted = hub.watchersOf wanted
  active_eq : after.activeSockets + (lost pushes).length = hub.activeSockets
  tidy : after.Tidy
  succeeds_eq : after.succeeds = hub.succeeds

theorem Pushes.nil (tidy : hub.Tidy) (id : String) (frame : Value) :
    hub.Pushes id frame [] [] hub :=
  ⟨(List.append_nil _).symm, rfl, by simp, rfl, fun _ _ => rfl, rfl, tidy, rfl⟩

theorem Pushes.cons {frame : Value} {sockets : List SocketId} {first rest : List Attempt}
    {between after : Broadcaster} (pushed : hub.Pushes id frame [socket] first between)
    (others : between.Pushes id frame sockets rest after) :
    hub.Pushes id frame (socket :: sockets) (first ++ rest) after where
  attempts_eq := by
    rw [others.attempts_eq, pushed.attempts_eq, List.append_assoc]
  sockets_eq := by
    rw [List.map_append, pushed.sockets_eq, others.sockets_eq]
    rfl
  frame_eq push member := (List.mem_append.1 member).elim (pushed.frame_eq push)
    (others.frame_eq push)
  watchersOf_eq := by
    rw [others.watchersOf_eq, pushed.watchersOf_eq, lost, lost, lost, List.filter_append,
      List.map_append, List.foldl_append]
  others_eq wanted ne := (others.others_eq wanted ne).trans (pushed.others_eq wanted ne)
  active_eq := by
    rw [← pushed.active_eq, ← others.active_eq, lost, lost, lost, List.filter_append,
      List.map_append, List.length_append]
    omega
  tidy := others.tidy
  succeeds_eq := others.succeeds_eq.trans pushed.succeeds_eq

/-- A push to a registered socket is tried once, and takes back a registration when it fails. -/
theorem exists_push (tidy : hub.Tidy) (frame : Value) (registered : socket ∈ hub.watchersOf id) :
    ∃ push, hub.Pushes id frame [socket] [push] (Broadcaster.push id frame hub socket) := by
  let push : Attempt := ⟨socket, frame, hub.succeeds socket (hub.attemptsTo socket)⟩
  let tried : Broadcaster := { hub with attempts := hub.attempts ++ [push] }
  have tidyTried : tried.Tidy := ⟨tidy.nodup, tidy.nonempty⟩
  refine ⟨push, ?_⟩
  cases delivered : push.delivered with
  | true =>
      have pushed : Broadcaster.push id frame hub socket = tried := if_pos delivered
      rw [pushed]
      have none_lost : lost [push] = [] := by simp [lost, delivered]
      refine ⟨rfl, rfl, by simp [push], ?_, fun _ _ => rfl, ?_, tidyTried, rfl⟩
      · rw [none_lost]
        rfl
      · rw [none_lost]
        rfl
  | false =>
      have pushed : Broadcaster.push id frame hub socket = tried.remove id socket :=
        if_neg (by simpa using delivered)
      rw [pushed]
      have one_lost : lost [push] = [socket] := by
        rw [lost, List.filter_cons_of_pos (by rw [delivered]; rfl)]
        rfl
      refine ⟨rfl, rfl, by simp [push], ?_, ?_, ?_, tidyTried.remove id socket, rfl⟩
      · rw [one_lost, watchersOf_remove tidyTried, if_pos rfl]
        rfl
      · intro wanted ne
        rw [watchersOf_remove tidyTried, if_neg (Ne.symm ne)]
        rfl
      · have active_eq := activeSockets_remove tried id socket
        have registered : socket ∈ tried.watchersOf id := registered
        rw [if_pos registered] at active_eq
        rw [one_lost, List.length_singleton, active_eq]
        rfl

/-- Frames are pushed to as many registrations as there are. -/
theorem exists_pushes (tidy : hub.Tidy) (id : String) (frame : Value) (sockets : List SocketId)
    (registered : ∀ socket, sockets.count socket ≤ (hub.watchersOf id).count socket) :
    ∃ pushes, hub.Pushes id frame sockets pushes
      (sockets.foldl (Broadcaster.push id frame) hub) := by
  induction sockets generalizing hub with
  | nil => exact ⟨[], .nil tidy id frame⟩
  | cons socket rest ih =>
      have member : socket ∈ hub.watchersOf id := by
        have here := registered socket
        rw [List.count_cons_self] at here
        exact List.count_pos_iff.1 (by omega)
      obtain ⟨push, pushed⟩ := exists_push tidy frame member
      have left (other : SocketId) :
          rest.count other ≤ ((Broadcaster.push id frame hub socket).watchersOf id).count other := by
        have gone : (lost [push]).count other ≤ [socket].count other := by
          rw [← pushed.sockets_eq]
          exact (List.filter_sublist.map _).count_le other
        have here := registered other
        rw [List.count_cons] at here
        rw [List.count_singleton] at gone
        rw [pushed.watchersOf_eq, count_foldl_erase]
        omega
      obtain ⟨pushes, others⟩ := ih pushed.tidy left
      exact ⟨push :: pushes, pushed.cons others⟩

/-- A broadcast pushes its frame to every registration under its id, in order. -/
theorem exists_pushes_broadcast (tidy : hub.Tidy) (id : String) (frame : Value) :
    ∃ pushes, hub.Pushes id frame (hub.watchersOf id) pushes (hub.broadcast id frame) :=
  exists_pushes tidy id frame (hub.watchersOf id) fun _ => Nat.le_refl _

theorem Tidy.push (tidy : hub.Tidy) (id : String) (frame : Value) (socket : SocketId) :
    (Broadcaster.push id frame hub socket).Tidy := by
  unfold Broadcaster.push
  dsimp only
  split
  · exact ⟨tidy.nodup, tidy.nonempty⟩
  · apply Tidy.remove
    exact ⟨tidy.nodup, tidy.nonempty⟩

theorem succeeds_push (hub : Broadcaster) (id : String) (frame : Value) (socket : SocketId) :
    (Broadcaster.push id frame hub socket).succeeds = hub.succeeds := by
  unfold Broadcaster.push
  dsimp only
  split <;> rfl

/-! ## The share of one socket -/

/-- What a broadcaster has to do with one socket: how often it is registered under each id, and the
pushes that were tried to it. -/
structure Share where
  registered : String → Nat
  attempts : List Attempt

/-- The share of a socket. -/
def share (hub : Broadcaster) (socket : SocketId) : Share where
  registered id := (hub.watchersOf id).count socket
  attempts := hub.attempts.filter (·.socket = socket)

/-- The share of a socket once a frame has been pushed to it under an id. -/
def Share.push (succeeds : SocketId → Nat → Bool) (socket : SocketId) (id : String) (frame : Value)
    (share : Share) : Share :=
  let delivered := succeeds socket share.attempts.length
  { registered := fun wanted =>
      if wanted = id ∧ delivered = false then share.registered wanted - 1
      else share.registered wanted
    attempts := share.attempts ++ [⟨socket, frame, delivered⟩] }

/-- What a socket received is told by its share. -/
theorem received_eq_share (hub : Broadcaster) (socket : SocketId) :
    hub.received socket = ((hub.share socket).attempts.filter (·.delivered)).map (·.payload) := by
  simp only [received, share, List.filter_filter]
  congr 2
  funext attempt
  simp [and_comm]

theorem share_tried (hub : Broadcaster) (push : Attempt) :
    share { hub with attempts := hub.attempts ++ [push] } socket =
      { hub.share socket with
        attempts := (hub.share socket).attempts ++ if push.socket = socket then [push] else [] } := by
  simp only [share, List.filter_append, List.filter_cons, List.filter_nil, decide_eq_true_eq]
  rfl

theorem share_remove (tidy : hub.Tidy) (id : String) (other : SocketId) :
    (hub.remove id other).share socket =
      { hub.share socket with
        registered := fun wanted =>
          if wanted = id ∧ other = socket then (hub.share socket).registered wanted - 1
          else (hub.share socket).registered wanted } := by
  have registered_eq (wanted : String) : ((hub.remove id other).watchersOf wanted).count socket =
      if wanted = id ∧ other = socket then (hub.watchersOf wanted).count socket - 1
      else (hub.watchersOf wanted).count socket := by
    rw [watchersOf_remove tidy]
    by_cases here : wanted = id
    · rw [if_pos here.symm, List.count_erase]
      by_cases same : other = socket <;> simp [here, same]
    · rw [if_neg (Ne.symm here), if_neg fun both => here both.1]
  simp only [share, registered_eq]
  rfl

/-- A push to a socket changes its share, and a push to another does not. -/
theorem share_push (tidy : hub.Tidy) (id : String) (frame : Value) (other : SocketId) :
    (Broadcaster.push id frame hub other).share socket =
      if other = socket then (hub.share socket).push hub.succeeds socket id frame
      else hub.share socket := by
  have number_eq : hub.attemptsTo socket = (hub.share socket).attempts.length :=
    List.countP_eq_length_filter
  have tidyTried (push : Attempt) : Tidy { hub with attempts := hub.attempts ++ [push] } :=
    ⟨tidy.nodup, tidy.nonempty⟩
  unfold Broadcaster.push
  dsimp only
  by_cases same : other = socket
  · subst same
    rw [if_pos rfl, Share.push, ← number_eq]
    cases delivered : hub.succeeds other (hub.attemptsTo other) with
    | true => simp [share_tried]
    | false => simp [share_remove (tidyTried _), share_tried]
  · rw [if_neg same]
    split
    · simp [share_tried, same]
    · simp [share_remove (tidyTried _), share_tried, same]

/-- A frame that is pushed to several sockets changes the share of one as often as it is among
them. -/
theorem share_foldl_push (tidy : hub.Tidy) (id : String) (frame : Value) (sockets : List SocketId) :
    (sockets.foldl (Broadcaster.push id frame) hub).share socket =
      (Share.push hub.succeeds socket id frame)^[sockets.count socket] (hub.share socket) := by
  induction sockets generalizing hub with
  | nil => rfl
  | cons other rest ih =>
      rw [List.foldl_cons, ih (tidy.push id frame other), share_push tidy, succeeds_push,
        List.count_cons]
      by_cases same : other = socket
      · simp [same, Function.iterate_succ_apply]
      · simp [same]

/-! ## Calls -/

/-- A call of a broadcaster. -/
inductive Call where
  | record (id : String) (entry : Entry)
  | finish (id status : String)
  | add (id : String) (socket : SocketId)
  | remove (id : String) (socket : SocketId)
  /-- A look at the entries under an id. -/
  | look (id : String) (cursor : Value)

namespace Call

/-- The broadcaster after a call. -/
def act (hub : Broadcaster) : Call → Broadcaster
  | .record id entry => (hub.record id entry).2
  | .finish id status => hub.finish id status
  | .add id socket => hub.add id socket
  | .remove id socket => hub.remove id socket
  | .look _ _ => hub

/-- The frame that a call pushes, with the id under which it does: an entry that cannot be written has
none. -/
def frame? : Call → Option (String × Value)
  | .record id entry =>
    if entry.fits then some (id, .obj (("type", .str "log") :: entry.toObject)) else none
  | .finish id status => some (id, statusFrame id status)
  | _ => none

/-- The entry that a call records under an id. -/
def recorded? (id : String) : Call → Option Entry
  | .record known entry => if known = id then some entry else none
  | _ => none

/-- Whether a call is no registration of another socket and does not take one back. -/
def concerns (socket : SocketId) : Call → Bool
  | .add _ other | .remove _ other => other = socket
  | _ => true

/-- Whether a call adds a registration. -/
def adds : Call → Bool
  | .add _ _ => true
  | _ => false

/-- The registrations that a call takes back by itself, not counting failed pushes. -/
def takenBack (hub : Broadcaster) : Call → Nat
  | .remove id socket => if socket ∈ hub.watchersOf id then 1 else 0
  | _ => 0

/-- What a call does to the share of a socket. -/
def onShare (succeeds : SocketId → Nat → Bool) (socket : SocketId) (share : Share) : Call → Share
  | .add id other =>
    { share with
      registered := fun wanted =>
        if wanted = id ∧ other = socket then share.registered wanted + 1
        else share.registered wanted }
  | .remove id other =>
    { share with
      registered := fun wanted =>
        if wanted = id ∧ other = socket then share.registered wanted - 1
        else share.registered wanted }
  | call =>
    match call.frame? with
    | some (id, frame) => (Share.push succeeds socket id frame)^[share.registered id] share
    | none => share

end Call

/-- The broadcaster after calls. -/
def actAll (hub : Broadcaster) (calls : List Call) : Broadcaster := calls.foldl Call.act hub

/-- The registrations that calls take back by themselves, one after the other. -/
def takenBack : Broadcaster → List Call → Nat
  | _, [] => 0
  | hub, call :: rest => call.takenBack hub + takenBack (call.act hub) rest

/-- A call with a frame broadcasts it, whatever it does to the entries before. -/
theorem exists_act_eq (hub : Broadcaster) {call : Call} {frame : Value}
    (framed : call.frame? = some (id, frame)) :
    ∃ entries, call.act hub = broadcast { hub with entries } id frame := by
  cases call with
  | record known entry =>
      simp only [Call.frame?] at framed
      split at framed
      · rename_i fits
        obtain ⟨rfl, rfl⟩ := Prod.mk.inj (Option.some.inj framed)
        exact ⟨_, (record_snd hub known entry).trans (if_pos fits)⟩
      · cases framed
  | finish known status =>
      obtain ⟨rfl, rfl⟩ := Prod.mk.inj (Option.some.inj framed)
      exact ⟨hub.entries, rfl⟩
  | add known socket => cases framed
  | remove known socket => cases framed
  | look known cursor => cases framed

/-- A call with a frame pushes it to every registration under its id, in order. -/
theorem exists_pushes_act (tidy : hub.Tidy) {call : Call} {frame : Value}
    (framed : call.frame? = some (id, frame)) :
    ∃ pushes, hub.Pushes id frame (hub.watchersOf id) pushes (call.act hub) := by
  obtain ⟨entries, act_eq⟩ := exists_act_eq hub framed
  have tidyKept : Tidy { hub with entries } := ⟨tidy.nodup, tidy.nonempty⟩
  obtain ⟨pushes, pushed⟩ := exists_pushes_broadcast tidyKept id frame
  rw [← act_eq] at pushed
  exact ⟨pushes, pushed.attempts_eq, pushed.sockets_eq, pushed.frame_eq, pushed.watchersOf_eq,
    pushed.others_eq, pushed.active_eq, pushed.tidy, pushed.succeeds_eq⟩

/-- An entry that cannot be written is kept. -/
theorem act_of_unframed {known : String} {entry : Entry}
    (unframed : (Call.record known entry).frame? = none) :
    (Call.record known entry).act hub = hub.keep known entry := by
  simp only [Call.frame?] at unframed
  split at unframed
  · cases unframed
  · rename_i high
    exact (record_snd hub known entry).trans (if_neg high)

/-- A call without a frame tries no push. -/
theorem attempts_act {call : Call} (unframed : call.frame? = none) :
    (call.act hub).attempts = hub.attempts := by
  cases call with
  | record known entry => rw [act_of_unframed unframed]; rfl
  | finish known status => cases unframed
  | add known socket => rfl
  | remove known socket => rfl
  | look known cursor => rfl

theorem Tidy.act (tidy : hub.Tidy) (call : Call) : (call.act hub).Tidy := by
  cases framed : call.frame? with
  | some pushed =>
      obtain ⟨pushes, pushed⟩ := exists_pushes_act tidy framed
      exact pushed.tidy
  | none =>
      cases call with
      | record known entry =>
          rw [act_of_unframed framed]
          exact ⟨tidy.nodup, tidy.nonempty⟩
      | finish known status => cases framed
      | add known socket => exact tidy.add known socket
      | remove known socket => exact tidy.remove known socket
      | look known cursor => exact tidy

theorem succeeds_act (tidy : hub.Tidy) (call : Call) :
    (call.act hub).succeeds = hub.succeeds := by
  cases framed : call.frame? with
  | some pushed =>
      obtain ⟨pushes, pushed⟩ := exists_pushes_act tidy framed
      exact pushed.succeeds_eq
  | none =>
      cases call with
      | record known entry => rw [act_of_unframed framed]; rfl
      | finish known status => cases framed
      | add known socket => rfl
      | remove known socket => rfl
      | look known cursor => rfl

/-- Every registration that was added is active, was lost with a failed push or was taken back. -/
theorem active_act (tidy : hub.Tidy) (call : Call) :
    (call.act hub).activeSockets + (lost (call.act hub).attempts).length + call.takenBack hub =
      hub.activeSockets + (lost hub.attempts).length + if call.adds then 1 else 0 := by
  cases framed : call.frame? with
  | some pushed =>
      obtain ⟨pushes, pushed⟩ := exists_pushes_act tidy framed
      have idle : call.takenBack hub = 0 ∧ call.adds = false := by
        cases call with
        | record known entry => exact ⟨rfl, rfl⟩
        | finish known status => exact ⟨rfl, rfl⟩
        | add known socket => cases framed
        | remove known socket => cases framed
        | look known cursor => cases framed
      have active_eq := pushed.active_eq
      rw [pushed.attempts_eq, lost, List.filter_append, List.map_append, List.length_append,
        idle.1, idle.2, if_neg Bool.false_ne_true]
      simp only [lost] at active_eq ⊢
      omega
  | none =>
      rw [attempts_act framed]
      cases call with
      | record known entry => rw [act_of_unframed framed]; rfl
      | finish known status => cases framed
      | add known socket =>
          have active_eq := activeSockets_add hub known socket
          simp only [Call.act, Call.takenBack, Call.adds, if_true]
          omega
      | remove known socket =>
          have active_eq := activeSockets_remove hub known socket
          simp only [Call.act, Call.takenBack, Call.adds, Bool.false_eq_true, if_false]
          omega
      | look known cursor => rfl

/-- A record is kept under its id, and nothing else changes what is kept. -/
theorem entriesOf_act (hub : Broadcaster) (call : Call) (id : String) :
    (call.act hub).entriesOf id = hub.entriesOf id ++ (call.recorded? id).toList := by
  cases call with
  | record known entry =>
      rw [Call.act, entriesOf_record, Call.recorded?]
      split <;> simp
  | finish known status => simp [Call.act, finish, entriesOf, Call.recorded?]
  | add known socket => simp [Call.act, add, entriesOf, Call.recorded?]
  | remove known socket => simp [Call.act, remove, entriesOf, Call.recorded?]
  | look known cursor => simp [Call.act, Call.recorded?]

theorem share_broadcast (tidy : hub.Tidy) (id : String) (frame : Value) :
    (hub.broadcast id frame).share socket =
      (Share.push hub.succeeds socket id frame)^[(hub.share socket).registered id]
        (hub.share socket) :=
  share_foldl_push tidy id frame (hub.watchersOf id)

/-- A call changes the share of a socket as that share alone tells. -/
theorem share_act (tidy : hub.Tidy) (call : Call) :
    (call.act hub).share socket = call.onShare hub.succeeds socket (hub.share socket) := by
  cases call with
  | record known entry =>
      have tidyKept : (hub.keep known entry).Tidy := ⟨tidy.nodup, tidy.nonempty⟩
      simp only [Call.act, Call.onShare, Call.frame?, record_snd]
      cases entry.fits with
      | true => exact share_broadcast tidyKept known _
      | false => rfl
  | finish known status => exact share_broadcast tidy known _
  | add known other =>
      simp only [Call.act, Call.onShare, share, add, watchersOf, under_appendUnder]
      congr 1
      funext wanted
      by_cases here : wanted = known
      · by_cases same : other = socket <;> simp [here, same]
      · simp [here, Ne.symm here]
  | remove known other => exact share_remove tidy known other
  | look known cursor => rfl

/-! ## Sequences of calls -/

theorem Tidy.actAll (tidy : hub.Tidy) (calls : List Call) : (hub.actAll calls).Tidy := by
  induction calls generalizing hub with
  | nil => exact tidy
  | cons call rest ih => exact ih (tidy.act call)

theorem entriesOf_actAll (hub : Broadcaster) (calls : List Call) (id : String) :
    (hub.actAll calls).entriesOf id = hub.entriesOf id ++ calls.filterMap (·.recorded? id) := by
  induction calls generalizing hub with
  | nil => simp [actAll]
  | cons call rest ih =>
      have next := ih (call.act hub)
      rw [entriesOf_act, List.append_assoc] at next
      cases recorded : call.recorded? id with
      | none => simpa [actAll, recorded] using next
      | some entry => simpa [actAll, recorded] using next

theorem active_actAll (tidy : hub.Tidy) (calls : List Call) :
    (hub.actAll calls).activeSockets + (lost (hub.actAll calls).attempts).length +
        hub.takenBack calls =
      hub.activeSockets + (lost hub.attempts).length + calls.countP Call.adds := by
  induction calls generalizing hub with
  | nil => rfl
  | cons call rest ih =>
      have here := active_act tidy call
      have next := ih (tidy.act call)
      rw [takenBack, List.countP_cons, actAll, List.foldl_cons]
      unfold actAll at next
      omega

theorem share_actAll (tidy : hub.Tidy) (calls : List Call) :
    (hub.actAll calls).share socket =
      calls.foldl (Call.onShare hub.succeeds socket) (hub.share socket) := by
  induction calls generalizing hub with
  | nil => rfl
  | cons call rest ih =>
      have next := ih (tidy.act call)
      rw [succeeds_act tidy, share_act tidy] at next
      exact next

/-- A call that is about another socket leaves the share as it is. -/
theorem onShare_of_not_concerns {call : Call} (other : call.concerns socket = false)
    (succeeds : SocketId → Nat → Bool) (share : Share) :
    call.onShare succeeds socket share = share := by
  cases call with
  | record known entry => cases other
  | finish known status => cases other
  | add known mover => simp [Call.onShare, show mover ≠ socket by simpa [Call.concerns] using other]
  | remove known mover =>
      simp [Call.onShare, show mover ≠ socket by simpa [Call.concerns] using other]
  | look known cursor => cases other

theorem foldl_onShare_filter (succeeds : SocketId → Nat → Bool) (calls : List Call)
    (share : Share) :
    (calls.filter (·.concerns socket)).foldl (Call.onShare succeeds socket) share =
      calls.foldl (Call.onShare succeeds socket) share := by
  induction calls generalizing share with
  | nil => rfl
  | cons call rest ih =>
      cases about : call.concerns socket with
      | true =>
          rw [List.filter_cons_of_pos about, List.foldl_cons, List.foldl_cons, ih]
      | false =>
          rw [List.filter_cons_of_neg (by simp [about]), List.foldl_cons,
            onShare_of_not_concerns about, ih]

theorem count_lost_le {frame : Value} {sockets : List SocketId} {pushes : List Attempt}
    {after : Broadcaster} (pushed : hub.Pushes id frame sockets pushes after) (socket : SocketId) :
    (lost pushes).count socket ≤ sockets.count socket := by
  rw [← pushed.sockets_eq]
  exact (List.filter_sublist.map _).count_le socket

theorem received_of_pushes {frame : Value} {sockets : List SocketId} {pushes : List Attempt}
    {after : Broadcaster} (pushed : hub.Pushes id frame sockets pushes after) (socket : SocketId) :
    after.received socket = hub.received socket ++
      (pushes.filter fun push => push.socket = socket ∧ push.delivered).map (·.payload) := by
  rw [received, pushed.attempts_eq, List.filter_append, List.map_append, received]

/-- After any calls of a new broadcaster, whatever becomes of the pushes: the entries under an id are
those recorded under it; no id is listed without sockets, and the active registrations are those added
that were neither lost with a failed push nor taken back.  A further call with a frame pushes it once
for each registration under its id, in order, takes back one registration for each push that fails and
nothing else, and adds the pushes that succeed to what their sockets received; any other call tries no
push.  And a socket has received what it would have without the calls about other sockets. -/
theorem fan_out_isolated (succeeds : SocketId → Nat → Bool) (calls : List Call) :
    let hub := actAll { succeeds } calls
    (∀ id, hub.entriesAfter id .null = .ok (calls.filterMap (·.recorded? id))) ∧
    (∀ watched ∈ hub.watchers, watched.2 ≠ []) ∧
    hub.activeSockets + ((lost hub.attempts).length + takenBack { succeeds } calls) =
      calls.countP Call.adds ∧
    (∀ (call : Call) id frame, call.frame? = some (id, frame) → ∃ pushes,
      hub.Pushes id frame (hub.watchersOf id) pushes (call.act hub) ∧
      (∀ socket, ((call.act hub).watchersOf id).count socket + (lost pushes).count socket =
        (hub.watchersOf id).count socket) ∧
      ∀ socket, (call.act hub).received socket = hub.received socket ++
        (pushes.filter fun push => push.socket = socket ∧ push.delivered).map (·.payload)) ∧
    (∀ call : Call, call.frame? = none → (call.act hub).attempts = hub.attempts) ∧
    ∀ socket, (actAll { succeeds } (calls.filter (·.concerns socket))).received socket =
      hub.received socket := by
  intro hub
  have tidyNew : Tidy { succeeds } := ⟨List.nodup_nil, by simp⟩
  have tidy : hub.Tidy := tidyNew.actAll calls
  refine ⟨?_, tidy.nonempty, ?_, ?_, fun call => attempts_act, ?_⟩
  · intro id
    exact congrArg Except.ok (entriesOf_actAll { succeeds } calls id)
  · have active_eq := active_actAll tidyNew calls
    simp only [hub, lost, activeSockets, List.filter_nil, List.map_nil, List.length_nil,
      List.foldr_nil] at active_eq ⊢
    omega
  · intro call id frame framed
    obtain ⟨pushes, pushed⟩ := exists_pushes_act tidy framed
    refine ⟨pushes, pushed, ?_, received_of_pushes pushed⟩
    intro socket
    have fewer := count_lost_le pushed socket
    rw [pushed.watchersOf_eq, count_foldl_erase]
    omega
  · intro socket
    rw [received_eq_share, received_eq_share, share_actAll tidyNew, share_actAll tidyNew,
      foldl_onShare_filter]

/-- Not every entry that is recorded is pushed to the sockets that watch its id. -/
theorem record_not_always_pushed :
    ¬ ∀ (succeeds : SocketId → Nat → Bool) (calls : List Call) (id : String) (entry : Entry),
      ∃ pushes, ((actAll { succeeds } calls).record id entry).2.attempts =
          (actAll { succeeds } calls).attempts ++ pushes ∧
        pushes.map (·.socket) = (actAll { succeeds } calls).watchersOf id := by
  intro whole
  let entry : Entry :=
    { index := 0, stepId := "step1", kind := "input", phase := .finished, output := nested 300,
      time := { moment := ⟨0⟩ } }
  have high : entry.fits = false := by
    simp [entry, Entry.fits, Value.fits, height_nested, Value.maxHeight]
  obtain ⟨pushes, attempts_eq, sockets_eq⟩ := whole (fun _ _ => true) [.add "run" 0] "run" entry
  rw [record_snd, high] at attempts_eq
  have untried : pushes = [] := attempts_eq.symm
  rw [untried] at sockets_eq
  cases sockets_eq

end Workflow.Broadcaster
