import SessionManager.Mobile.Stops

/-! Tickets are exchanged once, for the device and with the secret that they were issued with, and attaches
stay within their limits. A consumption reads the time once, before its first check, and its last check
compares the expiry with that reading. So an attach is made before the expiry by the clock of the request;
by the clock of the system it is if no request keeps a ticket waiting past the expiry. -/
namespace SessionManager.Mobile
open Foundation List KeyedTable

section

def Answer.isPlain : Answer → Bool
  | .rejected _ | .returned _ => true
  | _ => false

def Answer.spent : Answer → Option String
  | .attached frame _ _ => some frame.ticketId
  | _ => none

def Attach.asStarted (attach : Attach) : Attach := { attach with stop := false, listed := true }

def Attach.place (attach : Attach) : String × String := (attach.userId, attach.sessionId)

structure Quiet (before after : MobileSystem) : Prop where
  log : ∃ extra, after.log = before.log ++ extra ∧ ∀ answer ∈ extra, answer.isPlain = true
  drawn : after.drawn = before.drawn
  tickets : ∀ ticket ∈ after.tickets.rows, ticket ∈ before.tickets.rows
  attaches : ∀ attach ∈ after.attaches.rows,
    ∃ old ∈ before.attaches.rows, old.asStarted = attach.asStarted
  places : (after.active.map Attach.place).Sublist (before.active.map Attach.place)

variable {config : TerminalConfig} {secretHash : String → String} {before after : MobileSystem}

theorem Quiet.of_same_attaches {extra : List Answer} (log : after.log = before.log ++ extra)
    (plain : ∀ answer ∈ extra, answer.isPlain) (drawn : after.drawn = before.drawn)
    (tickets : ∀ ticket ∈ after.tickets.rows, ticket ∈ before.tickets.rows)
    (attaches : after.attaches = before.attaches) : Quiet before after where
  log := ⟨extra, log, plain⟩
  drawn := drawn
  tickets := tickets
  attaches := fun attach hm => ⟨attach, attaches ▸ hm, rfl⟩
  places := by
    unfold MobileSystem.active
    rw [attaches]

theorem places_update {rows : List Attach} {change : Attach → Attach}
    (place : ∀ attach, (change attach).place = attach.place)
    (hli : ∀ attach, (change attach).listed = true → attach.listed = true) :
    (((rows.map change).filter (·.listed)).map Attach.place).Sublist
      ((rows.filter (·.listed)).map Attach.place) := by
  rw [filter_map, map_map, show Attach.place ∘ change = Attach.place from funext place]
  exact (monotone_filter_right _ hli).map _

theorem quiet_sweepSection (index : Nat) (scope : Scope) (sweep : Sweep) :
    Quiet before (sweepSection before index scope sweep) := by
  cases sweep with
  | begun =>
    have none_extra : ∀ answer ∈ ([] : List Answer), answer.isPlain = true := by simp
    cases scope with
    | device | everything =>
      exact .of_same_attaches (append_nil _).symm none_extra rfl (fun _ hm => hm) rfl
  | barred =>
    refine .of_same_attaches (append_nil _).symm (by simp) rfl ?_ rfl
    exact fun _ hm => (mem_retain.mp hm).1
  | purged =>
    refine ⟨⟨[], (append_nil _).symm, by simp⟩, rfl, fun _ hm => hm, ?_, ?_⟩
    · intro attach hm
      obtain ⟨old, hi, rfl⟩ := mem_map.mp hm
      refine ⟨old, hi, ?_⟩
      split <;> rfl
    · refine places_update ?_ ?_
      · intro attach
        split <;> rfl
      · intro attach
        split
        · exact fun h => absurd h Bool.false_ne_true
        · exact fun hli => hli
  | swept =>
    refine ⟨⟨_, rfl, by simp [Answer.isPlain]⟩, rfl, fun _ hm => hm, ?_, ?_⟩
    · intro attach hm
      obtain ⟨old, hi, rfl⟩ := mem_map.mp hm
      refine ⟨old, hi, ?_⟩
      split <;> rfl
    · refine places_update ?_ ?_
      · intro attach
        split <;> rfl
      · intro attach
        split <;> exact fun hli => hli

theorem Move.quiet (move : Move config secretHash before after)
    (hs : after.drawn = before.drawn) : Quiet before after := by
  cases move with
  | still | tick | begun | presented | authorized | looked | admitted | cleared =>
    exact .of_same_attaches (append_nil _).symm (by simp) rfl (fun _ hm => hm) rfl
  | refused =>
    exact .of_same_attaches rfl (by simp [Answer.isPlain]) rfl (fun _ hm => hm) rfl
  | rejected _ _ fewer =>
    exact .of_same_attaches rfl (by simp [Answer.isPlain]) rfl fewer rfl
  | issued | attached => exact absurd hs (by simp [MobileSystem.answer])
  | detached =>
    refine ⟨⟨[], (append_nil _).symm, by simp⟩, rfl, fun _ hm => hm, ?_, ?_⟩
    · exact fun _ hm => ⟨_, (mem_retain.mp hm).1, rfl⟩
    · exact (filter_sublist.filter _).map _
  | sweeping => exact quiet_sweepSection _ _ _

theorem Quiet.mem_log (quiet : Quiet before after) {answer : Answer}
    (special : answer.isPlain = false) : answer ∈ after.log ↔ answer ∈ before.log := by
  obtain ⟨_, log, plain⟩ := quiet.log
  rw [log, mem_append]
  constructor
  · rintro (old | new)
    · exact old
    · rw [plain _ new] at special
      cases special
  · exact .inl

end

section

structure Redeems (secretHash : String → String) (ticket : Ticket) (frame : Presented)
    (attach : Attach) : Prop where
  named : ticket.ticketId = frame.ticketId
  device : ticket.deviceKeyId = frame.deviceKeyId
  secret : ticket.secretHash = secretHash frame.ticketSecret
  live : frame.now < ticket.expiresAtUnix
  attach : attach = ticket.attach attach.attachId frame.now

/-- The log against the maps: tickets in the map were issued and have not been exchanged, each exchange
was for a ticket that had been issued, and each attach has come from an exchange. -/
structure Ledger (secretHash : String → String) (system : MobileSystem) : Prop where
  issued : ∀ ticket secret, .issued ticket secret ∈ system.log →
    ticket.ticketId ∈ system.drawn ∧ ticket.secretHash = secretHash secret
  unique : ∀ one first two second, .issued one first ∈ system.log →
    .issued two second ∈ system.log → one.ticketId = two.ticketId → one = two ∧ first = second
  tickets : ∀ ticket ∈ system.tickets.rows, ∃ secret, .issued ticket secret ∈ system.log
  spent : ∀ ticketId ∈ system.log.filterMap Answer.spent,
    ∀ ticket ∈ system.tickets.rows, ticket.ticketId ≠ ticketId
  once : (system.log.filterMap Answer.spent).Nodup
  attached : ∀ frame attach clock, .attached frame attach clock ∈ system.log →
    ∃ ticket secret, .issued ticket secret ∈ system.log ∧ Redeems secretHash ticket frame attach
  attaches : ∀ attach ∈ system.attaches.rows,
    ∃ frame clock, .attached frame attach.asStarted clock ∈ system.log

variable {config : TerminalConfig} {secretHash : String → String} {before after : MobileSystem}
  {ticketId : String}

theorem mem_spent {log : List Answer} (hm : ticketId ∈ log.filterMap Answer.spent) :
    ∃ shown attach clock, .attached shown attach clock ∈ log ∧ shown.ticketId = ticketId := by
  obtain ⟨answer, hi, spends⟩ := mem_filterMap.mp hm
  cases answer with
  | rejected | returned | issued => cases spends
  | attached shown attach clock =>
    cases spends
    exact ⟨shown, _, _, hi, rfl⟩

section

variable (ledger : Ledger secretHash before)
include ledger

theorem Ledger.spent_drawn
    (hm : ticketId ∈ before.log.filterMap Answer.spent) : ticketId ∈ before.drawn := by
  obtain ⟨hfm, _, _, hi, rfl⟩ := mem_spent hm
  obtain ⟨_, _, issued, redeems⟩ := ledger.attached hfm _ _ hi
  exact redeems.named ▸ (ledger.issued _ _ issued).1

theorem Ledger.grown {extra : List Answer} (log : after.log = before.log ++ extra)
    (drawn : ∀ token ∈ before.drawn, token ∈ after.drawn)
    (issued : ∀ ticket secret, .issued ticket secret ∈ extra → extra = [.issued ticket secret] ∧
      ticket.ticketId ∉ before.drawn ∧ ticket.ticketId ∈ after.drawn ∧
      ticket.secretHash = secretHash secret)
    (tickets : ∀ ticket ∈ after.tickets.rows,
      ticket ∈ before.tickets.rows ∨ ∃ secret, .issued ticket secret ∈ extra)
    (once : (extra.filterMap Answer.spent).Nodup)
    (attached : ∀ frame attach clock, .attached frame attach clock ∈ extra →
      (∃ ticket ∈ before.tickets.rows, Redeems secretHash ticket frame attach) ∧
      ∀ ticket ∈ after.tickets.rows, ticket.ticketId ≠ frame.ticketId)
    (attaches : ∀ attach ∈ after.attaches.rows,
      (∃ old ∈ before.attaches.rows, old.asStarted = attach.asStarted) ∨
      ∃ frame clock, .attached frame attach.asStarted clock ∈ extra) : Ledger secretHash after := by
  refine ⟨?_, ?_, ?_, ?_, ?_, ?_, ?_⟩ <;> simp only [log, filterMap_append, mem_append]
  · rintro ticket secret (old | new)
    · exact ⟨drawn _ (ledger.issued _ _ old).1, (ledger.issued _ _ old).2⟩
    · exact (issued _ _ new).2.2
  · rintro one first two second (former | former) (latter | latter) hs
    · exact ledger.unique one _ two _ former latter hs
    · exact absurd (hs ▸ (ledger.issued one _ former).1) (issued _ _ latter).2.1
    · exact absurd (hs ▸ (ledger.issued two _ latter).1) (issued _ _ former).2.1
    · rw [(issued _ _ former).1, mem_singleton] at latter
      cases latter
      exact ⟨rfl, rfl⟩
  · intro ticket hm
    rcases tickets _ hm with old | ⟨secret, new⟩
    · obtain ⟨secret, old⟩ := ledger.tickets _ old
      exact ⟨_, .inl old⟩
    · exact ⟨_, .inr new⟩
  · rintro _ (old | new) ticket hm
    · rcases tickets _ hm with there | ⟨secret, new⟩
      · exact ledger.spent _ old _ there
      · rintro rfl
        exact (issued _ _ new).2.1 (ledger.spent_drawn old)
    · obtain ⟨shown, _, _, hi, rfl⟩ := mem_spent new
      exact (attached shown _ _ hi).2 _ hm
  · refine nodup_append.mpr ⟨ledger.once, once, ?_⟩
    rintro ticketId old _ new rfl
    obtain ⟨shown, _, _, hi, rfl⟩ := mem_spent new
    obtain ⟨⟨ticket, hm, redeems⟩, _⟩ := attached shown _ _ hi
    exact ledger.spent _ old _ hm redeems.named
  · rintro shown attach clock (old | new)
    · obtain ⟨ticket, secret, issued, redeems⟩ := ledger.attached shown _ _ old
      exact ⟨_, _, .inl issued, redeems⟩
    · obtain ⟨⟨ticket, hm, redeems⟩, _⟩ := attached shown _ _ new
      obtain ⟨secret, issued⟩ := ledger.tickets _ hm
      exact ⟨_, _, .inl issued, redeems⟩
  · intro attach hm
    rcases attaches _ hm with ⟨old, hi, hs⟩ | ⟨shown, clock, new⟩
    · obtain ⟨shown, clock, attached⟩ := ledger.attaches old hi
      exact ⟨shown, _, .inl (hs ▸ attached)⟩
    · exact ⟨shown, _, .inr new⟩

theorem Ledger.quiet (quiet : Quiet before after) : Ledger secretHash after := by
  obtain ⟨extra, log, plain⟩ := quiet.log
  refine ledger.grown log (by simp [quiet.drawn]) (fun _ _ hm => by cases plain _ hm)
    (fun _ hm => .inl (quiet.tickets _ hm)) ?_ (fun _ _ _ hm => by cases plain _ hm)
    (fun _ hm => .inl (quiet.attaches _ hm))
  rw [filterMap_eq_nil_iff.mpr]
  · exact nodup_nil
  · intro answer hm
    have such := plain _ hm
    cases answer with
    | rejected | returned | issued => rfl
    | attached => cases such

theorem Ledger.move (move : Move config secretHash before after) : Ledger secretHash after := by
  by_cases hs : after.drawn = before.drawn
  · exact ledger.quiet (move.quiet hs)
  cases move with
  | issued _ _ undrawn _ fewer =>
    refine ledger.grown rfl (fun _ hm => mem_append_left _ hm) ?_ ?_ nodup_nil (by simp) ?_
    · intro other secret hm
      cases mem_singleton.mp hm
      exact ⟨rfl, undrawn, mem_append_right _ mem_cons_self, rfl⟩
    · intro other hm
      rcases mem_snoc.mp hm with old | rfl
      · exact .inl (fewer _ old)
      · exact .inr ⟨_, mem_cons_self⟩
    · exact fun attach hm => .inl ⟨attach, hm, rfl⟩
  | attached _ _ hf device secret live =>
    obtain ⟨inMap, hna⟩ := find_some hf
    refine ledger.grown rfl (fun _ hm => mem_append_left _ hm) (by simp) ?_ (nodup_singleton _) ?_ ?_
    · exact fun _ hm => .inl (mem_retain.mp hm).1
    · intro shown attach clock hm
      cases mem_singleton.mp hm
      refine ⟨⟨_, inMap, hna, device, secret, live, rfl⟩, ?_⟩
      exact fun _ hi => of_decide_eq_true (mem_retain.mp hi).2
    · intro attach hm
      rcases mem_snoc.mp hm with old | rfl
      · exact .inl ⟨_, old, rfl⟩
      · exact .inr ⟨_, _, mem_cons_self⟩
  | sweeping => exact absurd (quiet_sweepSection _ _ _).drawn hs
  | _ => exact absurd rfl hs

end

theorem ledger_vacant : Ledger secretHash vacant where
  issued := by
    intro _ _ hm
    cases hm
  unique := by
    intro _ _ _ _ hm
    cases hm
  tickets := by
    intro _ hm
    cases hm
  spent := by
    intro _ hm
    cases hm
  once := nodup_nil
  attached := by
    intro _ _ _ hm
    cases hm
  attaches := by
    intro _ hm
    cases hm

end

section

structure Capped (config : TerminalConfig) (system : MobileSystem) : Prop where
  everyone : system.active.length ≤ maxGlobal config
  ofUser : ∀ userId,
    system.active.countP (fun attach => attach.userId = userId) ≤ maxUser config
  ofSession : ∀ sessionId,
    system.active.countP (fun attach => attach.sessionId = sessionId) ≤ maxSession config

variable {config : TerminalConfig} {secretHash : String → String} {before after : MobileSystem}

theorem enforceLimits_ok {total ofUser ofSession : Nat}
    (hpa : enforceLimits config total ofUser ofSession = .ok ()) :
    total < maxGlobal config ∧ ofUser < maxUser config ∧ ofSession < maxSession config := by
  unfold enforceLimits at hpa
  split at hpa
  · cases hpa
  split at hpa
  · cases hpa
  · split at hpa
    · cases hpa
    · omega

theorem Capped.quiet (capped : Capped config before) (quiet : Quiet before after) :
    Capped config after := by
  have fewer : ∀ chosen : String × String → Bool, after.active.countP (chosen ∘ Attach.place) ≤
        before.active.countP (chosen ∘ Attach.place) := by
    intro chosen
    rw [← countP_map, ← countP_map]
    exact quiet.places.countP_le
  refine ⟨?_, ?_, ?_⟩
  · have shorter := quiet.places.length_le
    rw [length_map, length_map] at shorter
    exact shorter.trans capped.everyone
  · intro _
    exact (fewer fun place => place.1 = _).trans (capped.ofUser _)
  · intro _
    exact (fewer fun place => place.2 = _).trans (capped.ofSession _)

theorem countP_append_le {field : Attach → String} {rows : List Attach} {attach : Attach}
    {bound : Nat} (room : rows.countP (fun other => field other = field attach) < bound)
    (held : ∀ value, rows.countP (fun other => field other = value) ≤ bound) (value : String) :
    (rows ++ [attach]).countP (fun other => field other = value) ≤ bound := by
  rw [countP_append, countP_singleton]
  by_cases own : field attach = value
  · subst own
    rw [if_pos (decide_eq_true rfl)]
    exact room
  · rw [if_neg (by simpa using own)]
    exact held _

theorem Capped.attaching (capped : Capped config before) {attach : Attach}
    (limits : enforceLimits config before.active.length
      (before.active.countP fun other => other.userId = attach.userId)
      (before.active.countP fun other => other.sessionId = attach.sessionId) = .ok ())
    (active : after.active = before.active ++ [attach]) : Capped config after := by
  obtain ⟨everyone, ofUser, ofSession⟩ := enforceLimits_ok limits
  refine ⟨?_, ?_, ?_⟩
  · rw [active, length_append]
    exact everyone
  · rw [active]
    exact countP_append_le ofUser capped.ofUser
  · rw [active]
    exact countP_append_le ofSession capped.ofSession

theorem Capped.move (capped : Capped config before)
    (move : Move config secretHash before after) : Capped config after := by
  by_cases hs : after.drawn = before.drawn
  · exact capped.quiet (move.quiet hs)
  cases move with
  | issued => exact ⟨capped.everyone, capped.ofUser, capped.ofSession⟩
  | @attached _ hfm _ ticket _ _ _ _ _ _ _ limits =>
    exact @Capped.attaching _ _ _ capped (ticket.attach _ hfm.now) limits
      (filter_append _ _)
  | sweeping => exact absurd (quiet_sweepSection _ _ _).drawn hs
  | _ => exact absurd rfl hs

theorem capped_vacant : Capped config vacant :=
  ⟨Nat.zero_le _, fun _ => Nat.zero_le _, fun _ => Nat.zero_le _⟩

end

section

def Call.frame : Call → Option Presented
  | .presented frame | .looked frame _ | .admitted frame _ | .cleared frame _ => some frame
  | _ => none

/-- When a ticket was asked for that is about to be issued. -/
def Call.authorizedAt : Call → Option Int
  | .authorized _ now => some now
  | _ => none

/-- The time is before the expiry of every ticket that a consumption on its way has still found live,
and before the expiry of every ticket that is about to be issued. -/
structure InTime (config : TerminalConfig) (system : MobileSystem) (time : Int) : Prop where
  presented : ∀ call ∈ system.calls, ∀ frame ∈ call.frame, ∀ ticket ∈ system.tickets.rows,
    ticket.ticketId = frame.ticketId → frame.now < ticket.expiresAtUnix →
      time < ticket.expiresAtUnix
  authorized : ∀ call ∈ system.calls, ∀ now ∈ call.authorizedAt, time < now + ttlSeconds config

instance (config : TerminalConfig) (system : MobileSystem) (time : Int) :
    Decidable (InTime config system time) :=
  decidable_of_iff
    ((∀ call ∈ system.calls, ∀ frame ∈ call.frame, ∀ ticket ∈ system.tickets.rows,
      ticket.ticketId = frame.ticketId → frame.now < ticket.expiresAtUnix →
        time < ticket.expiresAtUnix) ∧
      ∀ call ∈ system.calls, ∀ now ∈ call.authorizedAt, time < now + ttlSeconds config)
    ⟨fun both => ⟨both.1, both.2⟩, fun inTime => ⟨inTime.presented, inTime.authorized⟩⟩

def Punctual (system : MobileSystem) : Prop :=
  ∀ frame attach clock, .attached frame attach clock ∈ system.log →
    ∀ ticket secret, .issued ticket secret ∈ system.log → ticket.ticketId = frame.ticketId →
      clock < ticket.expiresAtUnix

variable {config : TerminalConfig} {secretHash : String → String} {before after : MobileSystem}

theorem ttlSeconds_pos (config : TerminalConfig) : 0 < ttlSeconds config := by
  unfold ttlSeconds clamp
  split <;> omega

/-- A call on its way has been there, or it has just read the clock, or it goes on with the frame of a
call that has. -/
theorem Move.fresh_calls (move : Move config secretHash before after) :
    ∀ call ∈ after.calls, call ∈ before.calls ∨ (∀ now ∈ call.authorizedAt, now = before.clock) ∧
        ∀ shown ∈ call.frame, shown.now = before.clock ∨
          ∃ old ∈ before.calls, shown ∈ old.frame := by
  intro call hm
  cases move with
  | still | tick | refused | detached => exact .inl hm
  | begun =>
    rcases mem_start hm with old | rfl
    · exact .inl old
    · cases call <;> simp_all [Call.isFirst, Call.authorizedAt, Call.frame]
  | presented =>
    rcases mem_start hm with old | rfl
    · exact .inl old
    · simp_all [Call.authorizedAt, Call.frame]
  | rejected | issued | attached =>
    exact .inl ((mem_proceed hm).resolve_right nofun)
  | authorized ht | looked ht | admitted ht | cleared ht =>
    have old := mem_of_there ht
    rcases mem_proceed hm with stays | new
    · exact .inl stays
    · refine .inr ⟨?_, ?_⟩ <;> grind [Call.authorizedAt, Call.frame]
  | @sweeping =>
    obtain ⟨_, hs, stages⟩ := calls_sweepSection _ _ _ _
    rw [hs] at hm
    rcases mem_proceed hm with stays | new
    · exact .inl stays
    · obtain ⟨_, rfl⟩ := stages _ new
      exact .inr (by simp [Call.authorizedAt, Call.frame])

theorem InTime.step (inTime : InTime config before before.clock) (clock : after.clock = before.clock)
    (move : Move config secretHash before after)
    (tickets : ∀ ticket ∈ after.tickets.rows, ticket ∈ before.tickets.rows ∨
      before.clock < ticket.expiresAtUnix) : InTime config after after.clock := by
  have calls := move.fresh_calls
  rw [clock]
  constructor
  · intro call hm hfm presents ticket hi hna live
    rcases tickets ticket hi with old | unexpired
    · rcases calls call hm with earlier | ⟨-, frames⟩
      · exact inTime.presented _ earlier hfm presents _ old hna live
      · rcases frames hfm presents with now | ⟨_, ht, hs⟩
        · exact now ▸ live
        · exact inTime.presented _ ht hfm hs _ old hna live
    · exact unexpired
  · intro call hm now asked
    rcases calls _ hm with earlier | ⟨drafts, -⟩
    · exact inTime.authorized _ earlier now asked
    · rw [drafts now asked]
      have hpo := ttlSeconds_pos config
      omega

/-- Time passes only as far as the tickets on their way allow, and every other move takes no time. -/
theorem InTime.move (inTime : InTime config before before.clock)
    (passes : InTime config before after.clock) (move : Move config secretHash before after) :
    InTime config after after.clock := by
  have fewer : after.drawn = before.drawn → ∀ ticket ∈ after.tickets.rows,
      ticket ∈ before.tickets.rows ∨ before.clock < ticket.expiresAtUnix :=
    fun hs _ hm => .inl ((move.quiet hs).tickets _ hm)
  have step := fun clock => @InTime.step _ _ _ _ inTime clock move
  cases move with
  | tick => exact ⟨passes.presented, passes.authorized⟩
  | @issued _ _ now _ _ ht _ _ _ older =>
    refine step rfl ?_
    intro ticket hm
    rcases mem_snoc.mp hm with old | rfl
    · exact .inl (older _ old)
    · exact .inr (inTime.authorized _ (mem_of_there ht) now rfl)
  | attached => exact step rfl fun _ hm => .inl (mem_retain.mp hm).1
  | @sweeping _ scope sweep =>
    refine step ?_ (fewer (quiet_sweepSection _ _ _).drawn)
    cases sweep <;> cases scope <;> rfl
  | _ => exact step rfl (fewer rfl)

theorem Punctual.quiet (punctual : Punctual before) (quiet : Quiet before after) :
    Punctual after := by
  intro hfm _ _ attached _ _ issued
  rw [quiet.mem_log rfl] at attached issued
  exact punctual hfm _ _ attached _ _ issued

theorem Punctual.move (punctual : Punctual before) (ledger : Ledger secretHash before)
    (inTime : InTime config before before.clock) (move : Move config secretHash before after) :
    Punctual after := by
  by_cases hs : after.drawn = before.drawn
  · exact punctual.quiet (move.quiet hs)
  cases move with
  | @issued _ _ _ _ _ _ undrawn =>
    intro hfm attach clock attached ticket _ issued hna
    rcases mem_snoc.mp attached with earlier | h
    · rcases mem_snoc.mp issued with old | new
      · exact punctual hfm _ _ earlier _ _ old hna
      · -- the new token was not known when the frame was exchanged
        cases new
        refine absurd (ledger.spent_drawn ?_) undrawn
        exact mem_filterMap.mpr ⟨_, earlier, congrArg some hna.symm⟩
    · cases h
  | @attached _ hfm _ ticket _ ht _ hf _ _ live =>
    intro _ attach clock attached one first issued hna
    have earlier : .issued one first ∈ before.log := by
      rcases mem_snoc.mp issued with old | h
      · exact old
      · cases h
    rcases mem_snoc.mp attached with old | new
    · exact punctual _ _ _ old one _ earlier hna
    · cases new
      obtain ⟨inMap, hk⟩ := find_some hf
      obtain ⟨_, given⟩ := ledger.tickets _ inMap
      rw [(ledger.unique one _ _ _ earlier given (hna.trans hk.symm)).1]
      exact inTime.presented _ (mem_of_there ht) hfm rfl _ inMap hk live
  | sweeping => exact absurd (quiet_sweepSection _ _ _).drawn hs
  | _ => exact absurd rfl hs

end

section

variable {config : TerminalConfig} {secretHash : String → String} (events : List MobileEvent)

theorem ledger_runMobile : Ledger secretHash (runMobile config secretHash vacant events) :=
  @runMobile_of_moves config secretHash vacant (Ledger secretHash)
    (fun _ _ move ledger => ledger.move move) ledger_vacant events

theorem capped_runMobile : Capped config (runMobile config secretHash vacant events) :=
  @runMobile_of_moves config secretHash vacant (Capped config)
    (fun _ _ move capped => capped.move move) capped_vacant events

/-- No step takes the clock past the expiry of a ticket that a request on its way is to issue or has
found live. -/
def Unhurried (config : TerminalConfig) (secretHash : String → String)
    (events : List MobileEvent) : Prop :=
  Throughout (fun system event => InTime config system (stepMobile config secretHash system event).clock)
    (fun system event => (stepMobile config secretHash system event, ())) vacant events

theorem punctual_runMobile {events : List MobileEvent}
    (unhurried : Unhurried config secretHash events) :
    Punctual (runMobile config secretHash vacant events) := by
  have hke : ∀ system event,
      (Ledger secretHash system ∧ InTime config system system.clock ∧ Punctual system) →
      InTime config system (stepMobile config secretHash system event).clock →
      Ledger secretHash (stepMobile config secretHash system event) ∧
        InTime config (stepMobile config secretHash system event)
          (stepMobile config secretHash system event).clock ∧
        Punctual (stepMobile config secretHash system event) := by
    rintro system event ⟨ledger, inTime, punctual⟩ passes
    have move := @move_stepMobile config secretHash system event
    exact ⟨ledger.move move, inTime.move passes move, punctual.move ledger inTime move⟩
  have start : Ledger secretHash vacant ∧ InTime config vacant vacant.clock ∧ Punctual vacant := by
    refine ⟨ledger_vacant, ⟨?_, ?_⟩, ?_⟩
    · intro _ hm
      cases hm
    · intro _ hm
      cases hm
    · intro _ _ _ hm
      cases hm
  exact (@reached_of_allowed _ _ _ _
    (fun system => Ledger _ system ∧ InTime _ system system.clock ∧ Punctual system)
    _ hke _ start _ unhurried).2.2

/-- Each active attach has come from an exchange, each exchange was for a ticket that had been issued, by
its device and with its secret, no ticket is exchanged twice, and the limits hold. The exchange was
before the expiry by the clock that the request has read, and by the clock of the system if requests
are unhurried. -/
theorem tickets_exchanged_once (config : TerminalConfig) (secretHash : String → String)
    (events : List MobileEvent) :
    (∀ attach ∈ (runMobile config secretHash vacant events).active, ∃ frame clock,
      .attached frame attach.asStarted clock ∈ (runMobile config secretHash vacant events).log) ∧
    (∀ frame attach clock,
      .attached frame attach clock ∈ (runMobile config secretHash vacant events).log →
        ∃ ticket secret,
          .issued ticket secret ∈ (runMobile config secretHash vacant events).log ∧
            Redeems secretHash ticket frame attach ∧
            secretHash frame.ticketSecret = secretHash secret ∧
            (Function.Injective secretHash → frame.ticketSecret = secret)) ∧
    ((runMobile config secretHash vacant events).log.filterMap Answer.spent).Nodup ∧
    Capped config (runMobile config secretHash vacant events) ∧
    (Unhurried config secretHash events →
      Punctual (runMobile config secretHash vacant events)) := by
  have ledger := @ledger_runMobile config secretHash events
  refine ⟨?_, ?_, ledger.once, capped_runMobile events, punctual_runMobile⟩
  · intro attach member
    exact ledger.attaches attach (mem_filter.mp member).1
  · intro frame attach clock attached
    obtain ⟨ticket, secret, issued, redeems⟩ := ledger.attached frame attach clock attached
    have hashes : secretHash frame.ticketSecret = secretHash secret :=
      redeems.secret.symm.trans (ledger.issued ticket secret issued).2
    exact ⟨ticket, secret, issued, redeems, hashes, fun injective => injective hashes⟩

/-- A phone that attaches at once is in time. -/
theorem tickets_exchanged_once_of_phone :
    Unhurried sampleTerminals id (attachPhone ++ [.tick 100]) ∧
      Punctual (runMobile sampleTerminals id vacant (attachPhone ++ [.tick 100])) := by
  have unhurried : Unhurried sampleTerminals id (attachPhone ++ [.tick 100]) := by
    unfold Unhurried
    decide +kernel
  exact ⟨unhurried, (tickets_exchanged_once sampleTerminals id _).2.2.2.2 unhurried⟩

/-- The events of `attachPhone`, with a pause before the last section of the consumption. -/
def attachPhoneLate : List MobileEvent :=
  [.ask samplePhone, .authorize 0 true, .issue 0 "att_1" "secret", .present sampleFrame, .look 0,
    .vet 0 (some "owner") true, .clear 0 (.ok ()), .tick 100, .take 0 "a1"]

/-- The ticket has expired at 30, and at 100 it is exchanged for an attach that is active. -/
theorem attach_after_expiry :
    ∃ frame attach ticket,
      Answer.issued ticket "secret" ∈ (runMobile sampleTerminals id vacant attachPhoneLate).log ∧
        Answer.attached frame attach 100 ∈
          (runMobile sampleTerminals id vacant attachPhoneLate).log ∧
        attach ∈ (runMobile sampleTerminals id vacant attachPhoneLate).active ∧
        ticket.ticketId = frame.ticketId ∧ ticket.expiresAtUnix = 30 := by
  refine ⟨⟨"att_1", "secret", "phone", "n1", "sig", 0⟩,
    (samplePhone.ticket sampleTerminals 0 "att_1" "secret").attach "a1" 0,
    samplePhone.ticket sampleTerminals 0 "att_1" "secret", ?_⟩
  decide +kernel

end

end SessionManager.Mobile
