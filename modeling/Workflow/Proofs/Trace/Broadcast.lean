import Workflow.Trace.Broadcaster

/-!
# What a broadcaster keeps and pushes

A broadcaster keeps every entry that is recorded.  A socket to which no push fails stays registered,
whatever happens to the others, and is pushed every frame as often as it is registered; only the
entries that are too high to be written have no frame.
-/

namespace Workflow

/-- An entry without its output. -/
def Entry.bare (entry : Entry) : Entry := { entry with output := .null }

namespace Broadcaster

/-! ## Lists under ids -/

section Lists

variable {α : Type} {id wanted : String} {lists : List (String × List α)}

@[simp]
theorem under_nil : under wanted ([] : List (String × List α)) = [] := rfl

theorem under_cons (kept : String × List α) :
    under wanted (kept :: lists) = if kept.1 = wanted then kept.2 else under wanted lists := by
  by_cases same : kept.1 = wanted <;> simp [under, same]

theorem under_of_not_mem (absent : wanted ∉ lists.map (·.1)) : under wanted lists = [] := by
  have missed : lists.find? (·.1 = wanted) = none := by
    simp only [List.find?_eq_none, decide_eq_true_eq]
    intro kept member same
    exact absent (List.mem_map.2 ⟨kept, member, same⟩)
  simp only [under, missed, Option.map_none, Option.getD_none]

theorem mem_ids_appendUnder {item : α} :
    wanted ∈ (appendUnder id item lists).map (·.1) ↔ wanted = id ∨ wanted ∈ lists.map (·.1) := by
  induction lists with
  | nil => simp [appendUnder]
  | cons kept rest ih =>
      rw [appendUnder]
      split
      · rename_i same
        simp only [List.map_cons, List.mem_cons, same, or_self_left]
      · simp only [List.map_cons, List.mem_cons, ih, or_left_comm]

theorem nodup_ids_appendUnder (item : α) (nodup : (lists.map (·.1)).Nodup) :
    ((appendUnder id item lists).map (·.1)).Nodup := by
  induction lists with
  | nil => simp [appendUnder]
  | cons kept rest ih =>
      obtain ⟨fresh, nodup⟩ := List.nodup_cons.1 nodup
      rw [appendUnder]
      split
      · exact List.nodup_cons.2 ⟨fresh, nodup⟩
      · rename_i other
        refine List.nodup_cons.2 ⟨?_, ih nodup⟩
        rw [mem_ids_appendUnder]
        rintro (same | member)
        · exact other same
        · exact fresh member

end Lists

/-! ## Sockets -/

variable {id wanted : String} {socket other : SocketId}

theorem ids_withoutSocket_sublist (lists : List (String × List SocketId)) :
    ((withoutSocket id other lists).map (·.1)).Sublist (lists.map (·.1)) := by
  induction lists with
  | nil => exact .slnil
  | cons kept rest ih =>
      unfold withoutSocket
      dsimp only
      split
      · split
        · exact List.sublist_cons_self _ _
        · exact .refl _
      · exact ih.cons_cons _

/-- Taking back a registration under an id erases it from the list there and leaves the other lists
alone. -/
theorem under_withoutSocket {lists : List (String × List SocketId)}
    (nodup : (lists.map (·.1)).Nodup) :
    under wanted (withoutSocket id other lists) =
      if id = wanted then (under wanted lists).erase other else under wanted lists := by
  induction lists with
  | nil => simp [withoutSocket]
  | cons kept rest ih =>
      obtain ⟨known, sockets⟩ := kept
      obtain ⟨fresh, nodup⟩ := List.nodup_cons.1 nodup
      unfold withoutSocket
      dsimp only
      by_cases here : known = id
      · subst here
        rw [if_pos rfl]
        by_cases found : known = wanted
        · subst found
          split
          · rename_i emptied
            rw [under_of_not_mem fresh, under_cons, if_pos rfl, if_pos rfl,
              List.isEmpty_iff.1 emptied]
          · rw [under_cons, under_cons, if_pos rfl, if_pos rfl, if_pos rfl]
        · split <;> simp only [under_cons, found, if_false]
      · rw [if_neg here, under_cons, under_cons, ih nodup]
        by_cases found : known = wanted
        · subst found
          simp [Ne.symm here]
        · simp [found]

/-- Taking back a registration of one socket leaves those of the others. -/
theorem count_withoutSocket {lists : List (String × List SocketId)} (ne : socket ≠ other)
    (nodup : (lists.map (·.1)).Nodup) :
    (under wanted (withoutSocket id other lists)).count socket =
      (under wanted lists).count socket := by
  rw [under_withoutSocket nodup]
  split
  · exact List.count_erase_of_ne ne
  · rfl

/-- A socket to which no push fails is registered under each id a number of times, and has received
some frames. -/
structure Serves (hub : Broadcaster) (socket : SocketId) (counts : String → Nat)
    (frames : List Value) : Prop where
  nodup : (hub.watchers.map (·.1)).Nodup
  reliable : ∀ number, hub.succeeds socket number = true
  count_eq : ∀ id, (hub.watchersOf id).count socket = counts id
  received_eq : hub.received socket = frames

variable {hub : Broadcaster} {counts : String → Nat} {frames : List Value}

/-- A new registration of any socket leaves the frames as they are. -/
theorem Serves.add (serves : hub.Serves socket counts frames) (id : String) (other : SocketId) :
    (hub.add id other).Serves socket
      (fun wanted => ((hub.add id other).watchersOf wanted).count socket) frames where
  nodup := nodup_ids_appendUnder other serves.nodup
  reliable := serves.reliable
  count_eq _ := rfl
  received_eq := serves.received_eq

/-- Taking back a registration of any socket leaves the frames as they are. -/
theorem Serves.remove (serves : hub.Serves socket counts frames) (id : String) (other : SocketId) :
    (hub.remove id other).Serves socket
      (fun wanted => ((hub.remove id other).watchersOf wanted).count socket) frames where
  nodup := (ids_withoutSocket_sublist hub.watchers).nodup serves.nodup
  reliable := serves.reliable
  count_eq _ := rfl
  received_eq := serves.received_eq

/-- Other sockets come without a change to what a socket is served. -/
theorem Serves.add_other (serves : hub.Serves socket counts frames) (id : String)
    (ne : socket ≠ other) : (hub.add id other).Serves socket counts frames where
  nodup := nodup_ids_appendUnder other serves.nodup
  reliable := serves.reliable
  count_eq wanted := by
    rw [← serves.count_eq, watchersOf, Broadcaster.add, under_appendUnder]
    split
    · rw [List.count_append, List.count_singleton, if_neg (by simpa using ne.symm)]
      rfl
    · rfl
  received_eq := serves.received_eq

/-- Other sockets go without a change to what a socket is served. -/
theorem Serves.remove_other (serves : hub.Serves socket counts frames) (id : String)
    (ne : socket ≠ other) : (hub.remove id other).Serves socket counts frames where
  nodup := (ids_withoutSocket_sublist hub.watchers).nodup serves.nodup
  reliable := serves.reliable
  count_eq wanted := by
    rw [← serves.count_eq]
    exact count_withoutSocket ne serves.nodup
  received_eq := serves.received_eq

/-- Taking back a registration leaves no socket with more of them. -/
theorem Serves.count_remove_le (serves : hub.Serves socket counts frames) (id : String)
    (other : SocketId) (wanted : String) :
    ((hub.remove id other).watchersOf wanted).count socket ≤ counts wanted := by
  rw [← serves.count_eq, watchersOf, Broadcaster.remove, under_withoutSocket serves.nodup]
  split
  · exact (List.erase_sublist).count_le socket
  · exact Nat.le_refl _

theorem received_attempt (hub : Broadcaster) (attempt : Attempt) (socket : SocketId) :
    received { hub with attempts := hub.attempts ++ [attempt] } socket =
      hub.received socket ++
        if attempt.socket = socket ∧ attempt.delivered then [attempt.payload] else [] := by
  simp only [received, List.filter_append, List.map_append, List.filter_cons, List.filter_nil,
    decide_eq_true_eq]
  split <;> rfl

/-- A push reaches the socket that it goes to; one that fails loses the registration of another
socket. -/
theorem Serves.push (serves : hub.Serves socket counts frames) (id : String) (payload : Value)
    (other : SocketId) :
    (Broadcaster.push id payload hub other).Serves socket counts
      (frames ++ if other = socket then [payload] else []) := by
  have received := received_attempt hub
    ⟨other, payload, hub.succeeds other (hub.attemptsTo other)⟩ socket
  unfold Broadcaster.push
  dsimp only
  split
  · rename_i delivered
    refine ⟨serves.nodup, serves.reliable, serves.count_eq, ?_⟩
    simpa only [delivered, and_true, serves.received_eq] using received
  · rename_i failed
    have ne : socket ≠ other := by
      rintro rfl
      exact failed (serves.reliable _)
    refine ⟨(ids_withoutSocket_sublist hub.watchers).nodup serves.nodup, serves.reliable, ?_, ?_⟩
    · intro id
      rw [← serves.count_eq]
      exact count_withoutSocket ne serves.nodup
    · rw [if_neg (Ne.symm ne), List.append_nil]
      rw [if_neg fun reached => ne reached.1.symm, List.append_nil, serves.received_eq] at received
      exact received

/-- A frame is pushed as often as the socket is registered. -/
theorem Serves.broadcast (serves : hub.Serves socket counts frames) (id : String)
    (payload : Value) :
    (hub.broadcast id payload).Serves socket counts
      (frames ++ List.replicate (counts id) payload) := by
  have pushed (sockets : List SocketId) {hub : Broadcaster} {frames : List Value}
      (serves : hub.Serves socket counts frames) :
      (sockets.foldl (Broadcaster.push id payload) hub).Serves socket counts
        (frames ++ List.replicate (sockets.count socket) payload) := by
    induction sockets generalizing hub frames with
    | nil => simpa using serves
    | cons other rest ih =>
        have next := ih (serves.push id payload other)
        rw [List.foldl_cons, List.count_cons]
        by_cases same : other = socket
        · simpa [same, List.replicate_succ] using next
        · simpa [same] using next
  rw [← serves.count_eq]
  exact pushed (hub.watchersOf id) serves

/-! ## Frames -/

/-- The frames of the entries that can be written. -/
def framesOf (entries : List Entry) : List Value :=
  (entries.filter Entry.fits).map fun entry => .obj (("type", .str "log") :: entry.toObject)

theorem framesOf_append (entries later : List Entry) :
    framesOf (entries ++ later) = framesOf entries ++ framesOf later := by
  simp only [framesOf, List.filter_append, List.map_append]

theorem logFrame_eq (entry : Entry) :
    logFrame entry =
      if entry.fits then .ok (.obj (("type", .str "log") :: entry.toObject))
      else .error .tooHigh := by
  cases fits : entry.fits <;>
    simp [logFrame, Entry.write, Fault.unlessTooHigh, fits, Except.map]

theorem record_snd (hub : Broadcaster) (id : String) (entry : Entry) :
    (hub.record id entry).2 =
      if entry.fits then
        (hub.keep id entry).broadcast id (.obj (("type", .str "log") :: entry.toObject))
      else hub.keep id entry := by
  rw [record, logFrame_eq]
  cases entry.fits <;> rfl

/-- Keep and push entries one after the other. -/
def recordAll (hub : Broadcaster) (id : String) (entries : List Entry) : Broadcaster :=
  entries.foldl (fun hub entry => (hub.record id entry).2) hub

theorem Serves.keep (serves : hub.Serves socket counts frames) (id : String) (entry : Entry) :
    (hub.keep id entry).Serves socket counts frames :=
  ⟨serves.nodup, serves.reliable, serves.count_eq, serves.received_eq⟩

theorem Serves.record (serves : hub.Serves socket counts frames) (id : String) (entry : Entry) :
    (hub.record id entry).2.Serves socket counts
      (frames ++ (framesOf [entry]).flatMap (List.replicate (counts id))) := by
  rw [record_snd]
  cases fits : entry.fits with
  | true => simpa [framesOf, fits] using (serves.keep id entry).broadcast id _
  | false => simpa [framesOf, fits] using serves.keep id entry

/-- The frames of several entries are pushed in their order. -/
theorem Serves.recordAll (serves : hub.Serves socket counts frames) (id : String)
    (entries : List Entry) :
    (hub.recordAll id entries).Serves socket counts
      (frames ++ (framesOf entries).flatMap (List.replicate (counts id))) := by
  induction entries generalizing hub frames with
  | nil => simpa [framesOf, Broadcaster.recordAll] using serves
  | cons entry rest ih =>
      have next := ih (serves.record id entry)
      rwa [List.append_assoc, ← List.flatMap_append, ← framesOf_append] at next

/-! ## Entries -/

theorem entries_push (hub : Broadcaster) (id : String) (payload : Value) (socket : SocketId) :
    (hub.push id payload socket).entries = hub.entries := by
  unfold Broadcaster.push
  dsimp only
  split <;> rfl

@[simp]
theorem entries_broadcast (hub : Broadcaster) (id : String) (payload : Value) :
    (hub.broadcast id payload).entries = hub.entries := by
  unfold broadcast
  generalize hub.watchersOf id = sockets
  induction sockets generalizing hub with
  | nil => rfl
  | cons socket rest ih => rw [List.foldl_cons, ih, entries_push]

theorem entries_record (hub : Broadcaster) (id : String) (entry : Entry) :
    (hub.record id entry).2.entries = appendUnder id entry hub.entries := by
  rw [record_snd]
  split
  · exact entries_broadcast _ _ _
  · rfl

theorem entriesOf_record (hub : Broadcaster) (id wanted : String) (entry : Entry) :
    (hub.record id entry).2.entriesOf wanted =
      if id = wanted then hub.entriesOf wanted ++ [entry] else hub.entriesOf wanted := by
  rw [entriesOf, entries_record, under_appendUnder]
  rfl

theorem entriesOf_recordAll (hub : Broadcaster) (id wanted : String) (entries : List Entry) :
    (hub.recordAll id entries).entriesOf wanted =
      if id = wanted then hub.entriesOf wanted ++ entries else hub.entriesOf wanted := by
  induction entries generalizing hub with
  | nil => simp [recordAll]
  | cons entry rest ih =>
      have next := ih (hub.record id entry).2
      rw [entriesOf_record] at next
      by_cases same : id = wanted
      · simpa [recordAll, same] using next
      · simpa [recordAll, same] using next

theorem totalEntries_record (hub : Broadcaster) (id : String) (entry : Entry) :
    (hub.record id entry).2.totalEntries = hub.totalEntries + 1 := by
  have grown (lists : List (String × List Entry)) :
      (appendUnder id entry lists).foldr (fun kept total => kept.2.length + total) 0 =
        lists.foldr (fun kept total => kept.2.length + total) 0 + 1 := by
    induction lists with
    | nil => rfl
    | cons kept rest ih =>
        rw [appendUnder]
        split
        · simp only [List.foldr_cons, List.length_append, List.length_singleton]
          omega
        · simp only [List.foldr_cons, ih]
          omega
  rw [totalEntries, entries_record, grown, totalEntries]

theorem totalEntries_recordAll (hub : Broadcaster) (id : String) (entries : List Entry) :
    (hub.recordAll id entries).totalEntries = hub.totalEntries + entries.length := by
  induction entries generalizing hub with
  | nil => rfl
  | cons entry rest ih =>
      have next := ih (hub.record id entry).2
      rw [totalEntries_record] at next
      rw [List.length_cons, Nat.add_comm rest.length, ← Nat.add_assoc, ← next]
      rfl

/-! ## Amended entries -/

theorem under_map {α : Type} (change : List α → List α) (unbegun : change [] = [])
    (lists : List (String × List α)) (id wanted : String) :
    under wanted (lists.map fun kept => if kept.1 = id then (kept.1, change kept.2) else kept) =
      if id = wanted then change (under wanted lists) else under wanted lists := by
  induction lists with
  | nil => simp [unbegun]
  | cons kept rest ih =>
      rw [List.map_cons, under_cons, under_cons, ih]
      by_cases here : kept.1 = id
      · by_cases same : id = wanted <;> simp [here, same]
      · by_cases found : kept.1 = wanted
        · subst found
          simp [here, Ne.symm here]
        · simp [here, found]

/-- The broadcaster differs from another one only in the outputs of the entries that it keeps. -/
structure Amends (shown hub : Broadcaster) : Prop where
  entries_eq : ∀ id, (shown.entriesOf id).map Entry.bare = (hub.entriesOf id).map Entry.bare
  watchers_eq : shown.watchers = hub.watchers
  attempts_eq : shown.attempts = hub.attempts
  succeeds_eq : shown.succeeds = hub.succeeds

theorem Amends.refl (hub : Broadcaster) : hub.Amends hub := ⟨fun _ => rfl, rfl, rfl, rfl⟩

theorem Amends.trans {first second third : Broadcaster} (later : third.Amends second)
    (earlier : second.Amends first) : third.Amends first where
  entries_eq id := (later.entries_eq id).trans (earlier.entries_eq id)
  watchers_eq := later.watchers_eq.trans earlier.watchers_eq
  attempts_eq := later.attempts_eq.trans earlier.attempts_eq
  succeeds_eq := later.succeeds_eq.trans earlier.succeeds_eq

theorem Serves.amends {shown : Broadcaster} (serves : hub.Serves socket counts frames)
    (amends : shown.Amends hub) : shown.Serves socket counts frames where
  nodup := amends.watchers_eq ▸ serves.nodup
  reliable := amends.succeeds_eq ▸ serves.reliable
  count_eq id := by
    rw [watchersOf, amends.watchers_eq]
    exact serves.count_eq id
  received_eq := by
    rw [received, amends.attempts_eq]
    exact serves.received_eq

theorem amendFirst_append {index : Int} {output : Value} {before : List Entry}
    (other : ∀ entry ∈ before, isFinishOf index entry = false) (after : List Entry) :
    amendFirst index output (before ++ after) = before ++ amendFirst index output after := by
  induction before with
  | nil => rfl
  | cons entry rest ih =>
      obtain ⟨first, others⟩ := List.forall_mem_cons.1 other
      rw [List.cons_append, amendFirst, first, if_neg Bool.false_ne_true, ih others,
        List.cons_append]

/-- The last entry that tells that a step finished is given the other output. -/
theorem amendLast_append {index : Int} {output : Value} {entry : Entry} {after : List Entry}
    (finish : isFinishOf index entry = true)
    (other : ∀ later ∈ after, isFinishOf index later = false) (before : List Entry) :
    amendLast index output (before ++ entry :: after) =
      before ++ { entry with output } :: after := by
  have behind : ∀ later ∈ after.reverse, isFinishOf index later = false := by
    simpa using other
  rw [amendLast, List.reverse_append, List.reverse_cons, List.append_assoc,
    amendFirst_append behind]
  simp [amendFirst, finish]

theorem bare_amendFirst (index : Int) (output : Value) (entries : List Entry) :
    (amendFirst index output entries).map Entry.bare = entries.map Entry.bare := by
  induction entries with
  | nil => rfl
  | cons entry rest ih =>
      rw [amendFirst]
      split
      · rfl
      · rw [List.map_cons, List.map_cons, ih]

theorem bare_amendLast (index : Int) (output : Value) (entries : List Entry) :
    (amendLast index output entries).map Entry.bare = entries.map Entry.bare := by
  rw [amendLast, List.map_reverse, bare_amendFirst, ← List.map_reverse, List.reverse_reverse]

theorem entriesOf_amend (hub : Broadcaster) (id : String) (index : Int) (output : Value)
    (wanted : String) :
    (hub.amend id index output).entriesOf wanted =
      if id = wanted then amendLast index output (hub.entriesOf wanted)
      else hub.entriesOf wanted :=
  under_map (amendLast index output) rfl hub.entries id wanted

theorem amends_amend (hub : Broadcaster) (id : String) (index : Int) (output : Value) :
    (hub.amend id index output).Amends hub where
  entries_eq wanted := by
    rw [entriesOf_amend]
    split
    · exact bare_amendLast index output _
    · rfl
  watchers_eq := rfl
  attempts_eq := rfl
  succeeds_eq := rfl

/-! ## Ended executions -/

/-- The broadcaster once it has been told of the entries of an execution and of its status. -/
def tell (hub : Broadcaster) (id : String) (entries : List Entry) (status : String) : Broadcaster :=
  (hub.recordAll id entries).finish id status

theorem entriesOf_tell (hub : Broadcaster) (id wanted : String) (entries : List Entry)
    (status : String) :
    (hub.tell id entries status).entriesOf wanted =
      if id = wanted then hub.entriesOf wanted ++ entries else hub.entriesOf wanted := by
  rw [← entriesOf_recordAll, entriesOf, tell, finish, entries_broadcast, entriesOf]

theorem totalEntries_tell (hub : Broadcaster) (id : String) (entries : List Entry)
    (status : String) :
    (hub.tell id entries status).totalEntries = hub.totalEntries + entries.length := by
  rw [← totalEntries_recordAll hub id entries, totalEntries, tell, finish, entries_broadcast,
    totalEntries]

/-- The frames of the log are pushed in order, and then that of the status. -/
theorem Serves.tell (serves : hub.Serves socket counts frames) (id : String) (entries : List Entry)
    (status : String) :
    (hub.tell id entries status).Serves socket counts
      (frames ++ (framesOf entries ++ [statusFrame id status]).flatMap
        (List.replicate (counts id))) := by
  have told := (serves.recordAll id entries).broadcast id (statusFrame id status)
  simpa [Broadcaster.tell, finish] using told

end Broadcaster

end Workflow
