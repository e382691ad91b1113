import NetStream.Client.Narration
import NetStream.Client.Status

/-!
# What a status says

The actor notes when it looks at a heartbeat, and a status is that note. An item on UDP is looked at
in the step that takes it, except for the first: that waits until an event has been sent, and the
note is made then (`State.looksAt?`). Each item is looked at once, in the order of arrival
(`Run.sees`), so a status is the time of the last heartbeat looked at before it
(`Run.latestUdpHeartbeat_eq`), a moment between the call of `get_status` and its return
(`Run.statusCalls`).
-/

namespace NetStream.Client

variable {M : MessageTypes}

/-- What the UDP reader yields. -/
abbrev UdpItem (M : MessageTypes) :=
  Except UdpError (UdpFromServer M)

/-- The item of the UDP reader that is handled next. -/
def Next.item? : Next M → Option (UdpItem M)
  | .streams => none
  | .udpItem item => some item

/-- The item that has been taken and is not looked at before an event has been sent. -/
def Phase.unseen? : Phase M → Option (UdpItem M)
  | .sending _ next => next.item?
  | .flushing next => next.item?
  | _ => none

/-- The item on UDP that a step looks at, and when. -/
def State.looksAt? (s : State M) : Action M → Option (UdpItem M × Instant)
  | .next source now =>
    if s.hasReceivedOnUdp then
      ((s.incoming? (.next source now)).bind Incoming.udpItem?).map fun item ↦ (item, now)
    else none
  | .send now =>
    match s.phase with
    | .sending ev next =>
      if s.eventSender.receiverAlive || ev.isMessage then none
      else next.item?.map fun item ↦ (item, now)
    | _ => none
  | .flush now =>
    match s.phase with
    | .flushing next => next.item?.map fun item ↦ (item, now)
    | _ => none
  | .task _ => none
  | .env _ => none

/-- The items on UDP that were looked at, oldest first, and when. -/
def lookedAt (hist : List (State M × Action M)) : List (UdpItem M × Instant) :=
  hist.filterMap fun x ↦ x.1.looksAt? x.2

theorem lookedAt_append_singleton (hist : List (State M × Action M)) (s : State M)
    (a : Action M) : lookedAt (hist ++ [(s, a)]) = lookedAt hist ++ (s.looksAt? a).toList :=
  List.filterMap_append_singleton _ hist (s, a)

/-- The time of a heartbeat. -/
def heartbeat? : UdpItem M × Instant → Option Instant
  | (.ok .heartbeat, now) => some now
  | _ => none

theorem heartbeat?_eq_some_iff {item : UdpItem M} {now n : Instant} :
    heartbeat? (item, now) = some n ↔ item = .ok .heartbeat ∧ now = n := by
  unfold heartbeat?
  split
  · rename_i heq
    obtain ⟨rfl, rfl⟩ := Prod.mk.inj heq
    simp
  · rename_i hne
    refine iff_of_false nofun ?_
    rintro ⟨rfl, -⟩
    exact hne now rfl

/-- The times of the heartbeats that were looked at. -/
def heartbeats (hist : List (State M × Action M)) : List Instant :=
  (lookedAt hist).filterMap heartbeat?

/-- The time of an action of the actor. -/
def Action.now? : Action M → Option Instant
  | .next _ now => some now
  | .send now => some now
  | .flush now => some now
  | .task _ => none
  | .env _ => none

/-- The clock does not go back. -/
def ClockRuns (hist : List (State M × Action M)) : Prop :=
  (hist.filterMap fun x ↦ x.2.now?).Pairwise (· ≤ ·)

instance (hist : List (State M × Action M)) : Decidable (ClockRuns hist) :=
  inferInstanceAs (Decidable ((hist.filterMap fun x ↦ x.2.now?).Pairwise (· ≤ ·)))

namespace State

variable {s s' t : State M}

/-! ### What a step looks at -/

/-- The actor goes on, has looked at this item, and has this one still to look at. -/
structure Looks (s s' : State M) (looked : Option (UdpItem M × Instant))
    (unseen : Option (UdpItem M)) : Prop where
  latest : s'.latestUdpHeartbeat = (looked.bind heartbeat?).or s.latestUdpHeartbeat
  unseen : s'.phase.unseen? = unseen

theorem looks_handleUdpReaderItem (hphase : s.phase = .receiving) (item : UdpItem M)
    (now : Instant) : Looks s (Client.handleUdpReaderItem s item now) (some (item, now)) none := by
  have hidle : s.phase.unseen? = none := by
    rw [hphase]
    rfl
  rcases item with _ | (_ | _ | _)
  · exact ⟨rfl, rfl⟩
  · exact ⟨rfl, rfl⟩
  · exact ⟨rfl, hidle⟩
  · exact ⟨rfl, hidle⟩

theorem looks_resume (s : State M) (next : Next M) (now : Instant) :
    Looks s (s.resume next now) (next.item?.map fun item ↦ (item, now)) none := by
  cases next with
  | streams => exact ⟨rfl, rfl⟩
  | udpItem item =>
    obtain ⟨hlatest, hunseen⟩ :=
      looks_handleUdpReaderItem (s := { s with phase := .receiving }) rfl item now
    exact ⟨hlatest, hunseen⟩

theorem looks_handleIncoming (hphase : s.phase = .receiving) (incoming : Incoming M)
    (now : Instant) :
    Looks s (handleIncoming s incoming now)
      (if s.hasReceivedOnUdp then incoming.udpItem?.map fun item ↦ (item, now) else none)
      (if s.hasReceivedOnUdp then none else incoming.udpItem?) := by
  have hidle : s.phase.unseen? = none := by
    rw [hphase]
    rfl
  have hquiet : incoming.udpItem? = none → Looks s (handleIncoming s incoming now) none none →
      Looks s (handleIncoming s incoming now)
        (if s.hasReceivedOnUdp then incoming.udpItem?.map fun item ↦ (item, now) else none)
        (if s.hasReceivedOnUdp then none else incoming.udpItem?) := by
    intro hnone hlooks
    rwa [hnone, Option.map_none, ite_self, ite_self]
  cases incoming with
  | actorMessage msg =>
    refine hquiet rfl ?_
    cases msg with
    | tcpToServer msg | udpToServer msg =>
      simp only [handleIncoming, Client.handleActorMessage]
      split
      · exact ⟨rfl, hidle⟩
      · exact ⟨rfl, rfl⟩
    | getStatus tx => exact ⟨rfl, hidle⟩
  | tcpReader event =>
    obtain ⟨item⟩ := event
    refine hquiet rfl ?_
    rcases item with _ | (_ | _ | _)
    · exact ⟨rfl, rfl⟩
    · exact ⟨rfl, rfl⟩
    · exact ⟨rfl, hidle⟩
    · exact ⟨rfl, rfl⟩
  | udpReader event =>
    obtain ⟨item⟩ := event
    show Looks s (handleUdpReader s item now) _ _
    unfold handleUdpReader
    cases s.hasReceivedOnUdp with
    | false => exact ⟨rfl, rfl⟩
    | true => exact looks_handleUdpReaderItem hphase item now
  | endOfStream kind =>
    refine hquiet rfl ?_
    cases kind with
    | actorMessage => exact ⟨rfl, rfl⟩
    | tcpReader _ | tcpWriter _ | udpReader _ | udpWriter _ => exact ⟨rfl, hidle⟩

/-- The items looked at, of those taken from the UDP reader. -/
structure Sees (s : State M) (looked taken : List (UdpItem M)) : Prop where
  isPrefix : looked <+: taken
  /-- Only the end of the task leaves one out. -/
  all : s.isOver = false → looked ++ s.phase.unseen?.toList = taken

/-- An item is taken, one is looked at, and one is left. -/
theorem sees_turn {looked taken : List (UdpItem M)} {before look new : Option (UdpItem M)}
    (hall : looked ++ before.toList = taken)
    (heq : look.toList ++ s'.phase.unseen?.toList = before.toList ++ new.toList) :
    s'.Sees (looked ++ look.toList) (taken ++ new.toList) := by
  have hsame : looked ++ look.toList ++ s'.phase.unseen?.toList = taken ++ new.toList := by
    rw [List.append_assoc, heq, ← List.append_assoc, hall]
  exact ⟨⟨_, hsame⟩, fun _ ↦ hsame⟩

/-- **What a step notes and looks at.** -/
structure Notes (s : State M) (a : Action M) (s' : State M) (looked taken : List (UdpItem M)) :
    Prop where
  latest : s'.latestUdpHeartbeat = ((s.looksAt? a).bind heartbeat?).or s.latestUdpHeartbeat
  sees : s'.Sees (looked ++ ((s.looksAt? a).map Prod.fst).toList)
    (taken ++ ((s.incoming? a).bind Incoming.udpItem?).toList)

variable {looked taken : List (UdpItem M)}

theorem map_fst_map (o : Option (UdpItem M)) (now : Instant) :
    (o.map fun item ↦ (item, now)).map Prod.fst = o := by
  cases o <;> rfl

/-- The next incoming item is handled. -/
theorem Sees.next (hs : s.Sees looked taken) (hphase : s.phase = .receiving) {source : Source}
    {incoming : Incoming M} (hr : s.nextIncoming source = some (incoming, t)) (now : Instant) :
    Notes s (.next source now) (handleIncoming t incoming now) looked taken := by
  have hi : s.incoming? (.next source now) = some incoming := by
    rw [incoming?, hr, Option.map_some]
  obtain ⟨htphase, htreceived, -⟩ := (taken_of_nextIncoming hr).turns
  have htlatest : t.latestUdpHeartbeat = s.latestUdpHeartbeat := by
    cases taken_of_nextIncoming hr <;> rfl
  obtain ⟨hlatest, hunseen⟩ := looks_handleIncoming (htphase.trans hphase) incoming now
  rw [htreceived] at hlatest hunseen
  have hlook : s.looksAt? (.next source now) =
      if s.hasReceivedOnUdp then incoming.udpItem?.map fun item ↦ (item, now) else none := by
    rw [looksAt?, hi, Option.bind_some]
  have hall := hs.all (isOver_eq_false hphase rfl)
  rw [hphase] at hall
  refine ⟨by rw [hlatest, htlatest, hlook], sees_turn hall ?_⟩
  rw [hunseen, hlook, hi, Option.bind_some]
  split
  · rw [map_fst_map]
    exact List.append_nil _
  · rfl

/-- The actor goes on after an event, or after its failure. -/
theorem Sees.resume (hs : s.Sees looked taken) {a : Action M} {next : Next M} {now : Instant}
    (hopen : s.isOver = false) (hunseen : s.phase.unseen? = next.item?)
    (hlook : s.looksAt? a = next.item?.map fun item ↦ (item, now)) (hi : s.incoming? a = none) :
    Notes s a (s.resume next now) looked taken := by
  obtain ⟨hlatest, hseen⟩ := s.looks_resume next now
  have hall := hs.all hopen
  rw [hunseen] at hall
  refine ⟨by rw [hlatest, hlook], sees_turn hall ?_⟩
  rw [hseen, hlook, hi, map_fst_map]
  rfl

/-- The actor does not move, or only puts its event into the channel. -/
theorem Sees.stays (hs : s.Sees looked taken) {a : Action M}
    (hlatest : s'.latestUdpHeartbeat = s.latestUdpHeartbeat)
    (hphase : s'.phase.unseen? = s.phase.unseen?) (hover : s'.isOver = s.isOver)
    (hlook : s.looksAt? a = none) (hi : s.incoming? a = none) : Notes s a s' looked taken := by
  refine ⟨by rw [hlatest, hlook]; rfl, ?_⟩
  rw [hlook, hi]
  refine ⟨(List.append_nil looked).symm ▸ (List.append_nil taken).symm ▸ hs.isPrefix, fun ho ↦ ?_⟩
  rw [hphase]
  exact (List.append_nil looked).symm ▸ (List.append_nil taken).symm ▸ hs.all (hover ▸ ho)

/-- **What every step does.** -/
theorem Sees.step (hs : s.Sees looked taken) {a : Action M} (h : s.step a = some s') :
    Notes s a s' looked taken := by
  rcases step_cases h with ⟨source, now, incoming, t, rfl, hphase, hr, rfl⟩ |
    ⟨now, ev, next, rfl, hphase, ⟨hacc, rfl⟩ | ⟨hgone, rfl⟩⟩ | ⟨now, next, rfl, hphase, rfl⟩ |
    ⟨task, rfl, htask⟩ | ⟨env, rfl, henv⟩
  · exact hs.next hphase hr now
  · refine hs.stays rfl ?_ (isOver_eq_false hphase rfl).symm ?_ rfl
    · rw [hphase]
      rfl
    · have halive : s.eventSender.receiverAlive = true := hacc.1
      simp only [looksAt?, hphase, halive, Bool.true_or, if_true]
  · have hopen : s.isOver = false := isOver_eq_false hphase rfl
    have hgoes : ev.isMessage = false →
        Notes s (.send now) (s.resume next now) looked taken := by
      intro hev
      refine hs.resume hopen (by rw [hphase]; rfl) ?_ rfl
      simp only [looksAt?, hphase, hgone, hev, Bool.or_self, Bool.false_eq_true, if_false]
    have hleaves : ev.isMessage = true → Notes s (.send now) s.leave looked taken := by
      intro hev
      have hlook : s.looksAt? (.send now) = none := by
        simp only [looksAt?, hphase, hev, Bool.or_true, if_true]
      refine ⟨by rw [hlook]; rfl, ?_⟩
      rw [hlook]
      exact ⟨(List.append_nil looked).symm ▸ (List.append_nil taken).symm ▸ hs.isPrefix, nofun⟩
    cases ev with
    | tcpMessage _ | udpMessage _ => exact hleaves rfl
    | canSendUdpMessages | canReceiveUdpMessages => exact hgoes rfl
  · refine hs.resume (isOver_eq_false hphase rfl) (by rw [hphase]; rfl) ?_ rfl
    simp only [looksAt?, hphase]
  · have hsame : s'.latestUdpHeartbeat = s.latestUdpHeartbeat := by
      cases task with
      | tcpReader st | tcpWriter st | udpReader st | udpWriter st =>
        obtain ⟨_, -, rfl⟩ := Option.map_eq_some_iff.1 htask
        rfl
    have hphase := phase_taskStep htask
    exact hs.stays hsame (by rw [hphase]) (isOver_of_phase hphase) rfl rfl
  · have hsame : s'.latestUdpHeartbeat = s.latestUdpHeartbeat := by
      have hcalled : ∀ {α : Type} (handle : ℕ) (msg : Message M) (back : α),
          (s.called (s.trySend handle msg back)).latestUdpHeartbeat = s.latestUdpHeartbeat := by
        intro α handle msg back
        unfold trySend
        split <;> rfl
      cases envMoves_of_envStep henv with
      | sendMessageTcp _ | sendMessageUdp _ | getStatus _ => exact hcalled _ _ _
      | tcpFrame _ | tcpEnd | datagram | cloneHandle _ | dropHandle | takeEvent _ | closeEvents =>
        rfl
    have hphase := phase_envStep henv
    exact hs.stays hsame (by rw [hphase]) (isOver_of_phase hphase) rfl rfl

end State

section Run

variable {hist : List (State M × Action M)} {s : State M}

/-! ### The note over a run -/

/-- **Each item is looked at once**, in the order in which it is taken. -/
theorem Run.sees (h : Run hist s) : s.Sees ((lookedAt hist).map Prod.fst)
    ((takenItems hist).filterMap Incoming.udpItem?) := by
  induction h with
  | start h =>
    obtain rfl := h
    exact ⟨List.prefix_rfl, fun _ ↦ rfl⟩
  | @next hist s s' a _ hs ih =>
    have hsees := (ih.step hs).sees
    rw [lookedAt_append_singleton, takenItems_append_singleton, List.map_append,
      List.filterMap_append, List.filterMap_toList, ← Option.toList_map]
    exact hsees

/-- **The note is the time of the last heartbeat looked at.** -/
theorem Run.latestUdpHeartbeat_eq (h : Run hist s) :
    s.latestUdpHeartbeat = (heartbeats hist).getLast? := by
  induction h with
  | start h =>
    obtain rfl := h
    rfl
  | @next hist s s' a h hs ih =>
    rw [((Run.sees h).step hs).latest, heartbeats, lookedAt_append_singleton, List.filterMap_append,
      List.filterMap_toList, List.getLast?_append, ih, heartbeats]
    cases (s.looksAt? a).bind heartbeat? <;> rfl

/-- A heartbeat is looked at when the actor takes a step. -/
theorem now?_of_looksAt? {a : Action M} {item : UdpItem M} {now : Instant}
    (h : s.looksAt? a = some (item, now)) : a.now? = some now := by
  have hnow : ∀ {o : Option (UdpItem M)} {n : Instant},
      (o.map fun item ↦ (item, n)) = some (item, now) → some n = some now := by
    intro o n heq
    obtain ⟨_, -, heq⟩ := Option.map_eq_some_iff.1 heq
    exact congrArg some (Prod.mk.inj heq).2
  cases a with
  | next source n =>
    simp only [State.looksAt?] at h
    split at h
    · exact hnow h
    · cases h
  | send n =>
    simp only [State.looksAt?] at h
    split at h
    · split at h
      · cases h
      · exact hnow h
    · cases h
  | flush n =>
    simp only [State.looksAt?] at h
    split at h
    · exact hnow h
    · cases h
  | task _ | env _ => cases h

/-- The time of a heartbeat is one that the clock has shown. -/
theorem exists_of_mem_heartbeats {n : Instant} (h : n ∈ heartbeats hist) :
    ∃ x ∈ hist, x.2.now? = some n := by
  obtain ⟨⟨item, now⟩, hlooked, hn⟩ := List.mem_filterMap.1 h
  obtain ⟨x, hx, hlooks⟩ := List.mem_filterMap.1 hlooked
  exact ⟨x, hx, (heartbeat?_eq_some_iff.1 hn).2 ▸ now?_of_looksAt? hlooks⟩

/-- Without a heartbeat among the datagrams there is no note. -/
theorem Run.heartbeat_arrived (h : Run hist s) (hlatest : s.latestUdpHeartbeat ≠ none) :
    .ok .heartbeat ∈ datagrams hist := by
  obtain ⟨n, hn⟩ := Option.ne_none_iff_exists'.1 hlatest
  rw [h.latestUdpHeartbeat_eq] at hn
  obtain ⟨⟨item, now⟩, hlooked, hbeat⟩ := List.mem_filterMap.1 (List.mem_of_getLast? hn)
  obtain ⟨rfl, -⟩ := heartbeat?_eq_some_iff.1 hbeat
  rw [← h.udpStream_eq]
  exact (h.sees.isPrefix.trans h.narrates.udp.isPrefix).subset
    (List.mem_map.2 ⟨_, hlooked, rfl⟩)

/-! ### The replies -/

/-- A status that is not older. -/
def NotOlder (latest latest' : Option Instant) : Prop :=
  ∀ n ∈ latest, ∃ m ∈ latest', n ≤ m

theorem NotOlder.refl (latest : Option Instant) : NotOlder latest latest :=
  fun n hn ↦ ⟨n, hn, Nat.le_refl n⟩

theorem NotOlder.trans {a b c : Option Instant} (h : NotOlder a b) (h' : NotOlder b c) :
    NotOlder a c := by
  intro n hn
  obtain ⟨m, hm, hle⟩ := h n hn
  obtain ⟨k, hk, hle'⟩ := h' m hm
  exact ⟨k, hk, Nat.le_trans hle hle'⟩

/-- While the clock does not go back, neither does the note. -/
theorem Run.notOlder_of_step (h : Run hist s) {s' : State M} {a : Action M}
    (hs : s.step a = some s') (hclock : ClockRuns (hist ++ [(s, a)])) :
    NotOlder s.latestUdpHeartbeat s'.latestUdpHeartbeat := by
  rw [((Run.sees h).step hs).latest]
  cases hbeat : (s.looksAt? a).bind heartbeat? with
  | none => exact .refl _
  | some now =>
    intro n hn
    refine ⟨now, rfl, ?_⟩
    have hlast : now ∈ heartbeats (hist ++ [(s, a)]) := by
      rw [heartbeats, lookedAt_append_singleton, List.filterMap_append, List.filterMap_toList, hbeat]
      exact List.mem_append_right _ (List.mem_singleton_self now)
    have hnow : a.now? = some now := by
      obtain ⟨⟨item, m⟩, hlooks, hm⟩ := Option.bind_eq_some_iff.1 hbeat
      exact (heartbeat?_eq_some_iff.1 hm).2 ▸ now?_of_looksAt? hlooks
    obtain ⟨x, hx, hxn⟩ : ∃ x ∈ hist, x.2.now? = some n := by
      rw [Run.latestUdpHeartbeat_eq h] at hn
      exact exists_of_mem_heartbeats (List.mem_of_getLast? hn)
    rw [ClockRuns, List.filterMap_append, List.pairwise_append] at hclock
    refine hclock.2.2 n (List.mem_filterMap.2 ⟨x, hx, hxn⟩) now ?_
    exact List.mem_filterMap.2 ⟨(s, a), List.mem_singleton_self _, hnow⟩

/-- **The replies do not go back**, while the clock does not. -/
theorem Run.replies_notOlder (h : Run hist s) (hclock : ClockRuns hist) :
    (s.replies.Pairwise fun r r' ↦ NotOlder r.2.latestUdpHeartbeat r'.2.latestUdpHeartbeat) ∧
      ∀ r ∈ s.replies, NotOlder r.2.latestUdpHeartbeat s.latestUdpHeartbeat := by
  induction h with
  | start h =>
    obtain rfl := h
    exact ⟨List.Pairwise.nil, nofun⟩
  | @next hist s s' a h hs ih =>
    have hstep := Run.notOlder_of_step h hs hclock
    rw [ClockRuns, List.filterMap_append] at hclock
    obtain ⟨hpairwise, hlast⟩ := ih (List.pairwise_append.1 hclock).1
    have hanswer : ∀ r ∈ (s.answers? a).toList, r.2.latestUdpHeartbeat = s.latestUdpHeartbeat := by
      intro r hr
      unfold State.answers? at hr
      split at hr
      · obtain rfl := List.mem_singleton.1 hr
        rfl
      · cases hr
    rw [(State.serves_of_step hs).replies]
    refine ⟨List.pairwise_append.2 ⟨hpairwise, ?_, fun r hr r' hr' ↦ ?_⟩, fun r hr ↦ ?_⟩
    · cases s.answers? a with
      | none => exact List.Pairwise.nil
      | some r => exact List.pairwise_singleton _ r
    · rw [hanswer r' hr']
      exact hlast r hr
    · rcases List.mem_append.1 hr with hr | hr
      · exact (hlast r hr).trans hstep
      · rw [hanswer r hr]
        exact hstep

/-- **Each reply is the note at one moment after its request**: when that was taken. -/
theorem Run.exists_of_status (h : Run hist s) {i tx : ℕ} {status : Status}
    (hi : s.replies[i]? = some (tx, status)) :
    ∃ hist₁ t a hist₂, hist = hist₁ ++ (t, a) :: hist₂ ∧ Run hist₁ t ∧
      (requestedStatus hist₁)[i]? = some tx ∧ status = ⟨t.latestUdpHeartbeat⟩ := by
  induction h with
  | start h =>
    obtain rfl := h
    simp [State.start] at hi
  | @next hist s s' a h hs ih =>
    rw [(State.serves_of_step hs).replies] at hi
    rcases Nat.lt_or_ge i s.replies.length with hlt | hge
    · rw [List.getElem?_append_left hlt] at hi
      obtain ⟨hist₁, t, b, hist₂, rfl, ht, hrequest, hstatus⟩ := ih hi
      exact ⟨hist₁, t, b, hist₂ ++ [(s, a)], by simp, ht, hrequest, hstatus⟩
    · rw [List.getElem?_append_right hge] at hi
      have hmem : (tx, status) ∈ (s.answers? a).toList := List.mem_of_getElem? hi
      obtain ⟨hpos, -⟩ := List.getElem?_eq_some_iff.1 hi
      have hzero : i = s.replies.length := by
        have hle : (s.answers? a).toList.length ≤ 1 := by cases s.answers? a <;> simp
        omega
      unfold State.answers? at hmem
      split at hmem
      · rename_i tx' hincoming
        obtain ⟨rfl, rfl⟩ := Prod.mk.inj (List.mem_singleton.1 hmem)
        refine ⟨hist, s, a, [], rfl, h, ?_, rfl⟩
        -- the request taken is the first of those that wait
        have hqueue : ∃ rest, s.msgReceiver.queue = .getStatus tx :: rest := by
          rcases State.step_cases hs with ⟨source, now, incoming, t, rfl, -, hr, -⟩ |
            ⟨_, _, _, rfl, -⟩ | ⟨_, _, rfl, -⟩ | ⟨_, rfl, -⟩ | ⟨_, rfl, -⟩
          · rw [State.incoming?, hr, Option.map_some] at hincoming
            obtain rfl : incoming = _ := Option.some.inj hincoming
            cases State.taken_of_nextIncoming hr with
            | actorMessage hrecv => exact ⟨_, SharedChannel.queue_of_recv hrecv⟩
          all_goals cases hincoming
        obtain ⟨rest, hqueue⟩ := hqueue
        have hanswering := Run.answering h
        rw [← hanswering.requests, hanswering.statusRequests_eq, State.pendingStatus, hqueue, hzero,
          List.getElem?_append_right (by simp), List.length_map, Nat.sub_self]
        rfl
      · cases hmem

theorem State.statusCall_eq_returned_iff {i : ℕ} {status : Status} :
    s.statusCall i = .returned status ↔ ∃ tx, s.replies[i]? = some (tx, status) := by
  rw [State.statusCall]
  split
  · rename_i reply hreply
    rw [hreply]
    constructor
    · intro h
      exact ⟨reply.1, by rw [← StatusCall.returned.inj h]⟩
    · rintro ⟨tx, h⟩
      rw [Option.some.inj h]
  · rename_i hnone
    rw [hnone]
    split <;> simp

/-- What the calls of `get_status` return over a run with this history. -/
structure StatusCalls (hist : List (State M × Action M)) (s : State M) : Prop where
  /-- A call returns the time of the last heartbeat before one moment after the call. -/
  returned : ∀ i status, s.statusCall i = .returned status → ∃ hist₁ t a hist₂,
    hist = hist₁ ++ (t, a) :: hist₂ ∧ i < (requestedStatus hist₁).length ∧
      status.latestUdpHeartbeat = (heartbeats hist₁).getLast?
  /-- A heartbeat was among the datagrams, of which each is looked at once, in order. -/
  arrived : (lookedAt hist).map Prod.fst <+: s.udpReadActor.stream.sent
  /-- A later call does not return an older time, unless the clock goes back. -/
  forward : ClockRuns hist → ∀ i j status status', i ≤ j → s.statusCall i = .returned status →
    s.statusCall j = .returned status' →
      NotOlder status.latestUdpHeartbeat status'.latestUdpHeartbeat

/-- **What a status says**, in every run and through any number of handles. -/
theorem Run.statusCalls (h : Run hist s) : StatusCalls hist s where
  returned i status hstatus := by
    obtain ⟨tx, hi⟩ := State.statusCall_eq_returned_iff.1 hstatus
    obtain ⟨hist₁, t, a, hist₂, heq, ht, hrequest, rfl⟩ := h.exists_of_status hi
    obtain ⟨hlt, -⟩ := List.getElem?_eq_some_iff.1 hrequest
    exact ⟨hist₁, t, a, hist₂, heq, hlt, ht.latestUdpHeartbeat_eq⟩
  arrived := h.sees.isPrefix.trans h.narrates.udp.isPrefix
  forward hclock i j status status' hij hi hj := by
    obtain ⟨tx, hi⟩ := State.statusCall_eq_returned_iff.1 hi
    obtain ⟨tx', hj⟩ := State.statusCall_eq_returned_iff.1 hj
    rcases Nat.eq_or_lt_of_le hij with rfl | hlt
    · obtain ⟨-, rfl⟩ := Prod.mk.inj (Option.some.inj (hi.symm.trans hj))
      exact .refl _
    · obtain ⟨hi', hri⟩ := List.getElem?_eq_some_iff.1 hi
      obtain ⟨hj', hrj⟩ := List.getElem?_eq_some_iff.1 hj
      have hpair := List.pairwise_iff_getElem.1 (h.replies_notOlder hclock).1 i j hi' hj' hlt
      rwa [hri, hrj] at hpair

/-- The first heartbeat is noted only after an event has been sent: a status that is asked for in the
meantime still says that there was none. -/
theorem Run.statusCalls_of_three : ∃ hist, ∃ s : State numberedMessages, Run hist s ∧
    s.statusCall 0 = .returned ⟨none⟩ ∧ s.statusCall 1 = .returned ⟨some 4⟩ ∧
    s.statusCall 2 = .waiting ∧ heartbeats hist = [4, 6] ∧ ClockRuns hist ∧ StatusCalls hist s := by
  have h : Run _ _ := TransitionSystem.run_of_exec (T := system numberedMessages) (s := .start)
    (l := [.env (.datagram (.ok .heartbeat)), .env (.datagram (.ok .heartbeat)),
      .env (.getStatus 0 7), .next .actorMessage 1, .task (.udpReader .item),
      .task (.udpReader .send), .task (.udpReader .flush), .next .udpReader 2,
      .env (.getStatus 0 8), .send 3, .flush 4, .next .actorMessage 5, .env (.getStatus 0 9),
      .task (.udpReader .item), .task (.udpReader .send), .task (.udpReader .flush),
      .next .udpReader 6]) rfl rfl
  exact ⟨_, _, h, rfl, rfl, rfl, rfl, by decide, Run.statusCalls h⟩

end Run

end NetStream.Client
