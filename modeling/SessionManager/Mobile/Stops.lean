import SessionManager.Foundation.Transcripts
import SessionManager.Mobile.Moves

/-! Revoking a device and disabling terminals, against every interleaving with requests for tickets and
for attaches. A request that has passed the check which a sweep bars holds a ticket that the sweep takes
away; a request that has not passed it never will. So no attach that a finished sweep covers stands in
the map, then or later. An attach that was taken out of the map has its stop flag set, or the sweep that
took it is still about to set it: the flags are set after the lock has been released, and another sweep
of the same attach may return in between. -/
namespace SessionManager.Mobile
open Foundation List KeyedTable

variable {next : Option Call} {index : Nat}

section

def Call.seen : Call → Option (Presented × Ticket)
  | .looked frame ticket | .admitted frame ticket | .cleared frame ticket => some (frame, ticket)
  | _ => none

/-- Tickets are known by their tokens: the ticket that a call has seen is the one in the map, as long
as there is one under its identifier. -/
structure Tokens (system : MobileSystem) : Prop where
  tickets : ∀ ticket ∈ system.tickets.rows, ticket.ticketId ∈ system.drawn
  seen : ∀ call ∈ system.calls, ∀ frame ticket, call.seen = some (frame, ticket) →
    ticket.ticketId = frame.ticketId ∧ ticket.deviceKeyId = frame.deviceKeyId ∧
      ticket.ticketId ∈ system.drawn ∧
      ∀ other ∈ system.tickets.rows, other.ticketId = ticket.ticketId → other = ticket

variable {config : TerminalConfig} {secretHash : String → String} {before after : MobileSystem}

theorem Tokens.fewer (tokens : Tokens before)
    (tickets : ∀ ticket ∈ after.tickets.rows, ticket ∈ before.tickets.rows)
    (drawn : ∀ token ∈ before.drawn, token ∈ after.drawn)
    (calls : ∀ call ∈ after.calls, call ∈ before.calls ∨ call.seen = none ∨
      ∃ old ∈ before.calls, call.seen = old.seen) : Tokens after where
  tickets := fun ticket hm => drawn _ (tokens.tickets ticket (tickets ticket hm))
  seen := by
    intro call hm hfm ticket sees
    obtain ⟨old, hi, hs⟩ : ∃ old ∈ before.calls, call.seen = old.seen := by
      rcases calls call hm with old | blind | hca
      · exact ⟨_, old, rfl⟩
      · rw [blind] at sees
        cases sees
      · exact hca
    obtain ⟨id, device, hk, unique⟩ := tokens.seen old hi hfm _ (hs ▸ sees)
    exact ⟨id, device, drawn _ hk, fun _ ht => unique _ (tickets _ ht)⟩

theorem Tokens.proceed (tokens : Tokens before) (hca : ∀ call, next = some call → call.seen = none ∨
      ∃ old ∈ before.calls, call.seen = old.seen) : Tokens (before.proceed index next) := by
  refine tokens.fewer (fun _ hm => hm) (fun _ hm => hm) ?_
  intro call hm
  rcases mem_proceed hm with old | new
  · exact .inl old
  · exact .inr (hca _ new)

theorem Tokens.move (tokens : Tokens before) (move : Move config secretHash before after) :
    Tokens after := by
  cases move with
  | still => exact tokens
  | tick | refused | detached => exact ⟨tokens.tickets, tokens.seen⟩
  | rejected _ _ fewer =>
    refine tokens.fewer fewer (fun _ hm => hm) ?_
    exact fun _ hm => .inl (mem_of_closed hm)
  | begun first =>
    refine tokens.fewer (fun _ hm => hm) (fun _ hm => hm) ?_
    intro call hm
    rcases mem_start hm with old | rfl
    · exact .inl old
    · refine .inr (.inl ?_)
      cases call <;> first | rfl | cases first
  | presented =>
    refine tokens.fewer (fun _ hm => hm) (fun _ hm => hm) ?_
    intro call hm
    rcases mem_start hm with old | rfl
    · exact .inl old
    · exact .inr (.inl rfl)
  | authorized =>
    refine tokens.proceed ?_
    rintro call ⟨⟩
    exact .inl rfl
  | @looked _ _ ticket _ hf device =>
    obtain ⟨hm, hna⟩ := find_some hf
    refine ⟨tokens.tickets, ?_⟩
    intro call hi other seen sees
    rcases mem_proceed hi with old | new
    · exact tokens.seen _ old _ _ sees
    · cases new
      cases sees
      refine ⟨hna, device, tokens.tickets _ hm, ?_⟩
      intro _ inside' hs
      exact eq_of_key_eq inside' hm hs
  | admitted ht | cleared ht =>
    refine tokens.proceed ?_
    rintro call ⟨⟩
    exact .inr ⟨_, mem_of_there ht, rfl⟩
  | @issued _ _ _ ticketId _ _ undrawn _ _ fewer =>
    refine ⟨?_, ?_⟩
    · intro ticket hm
      rcases mem_snoc.mp hm with old | rfl
      · exact mem_append_left _ (tokens.tickets _ (fewer _ old))
      · exact mem_append_right _ (mem_singleton_self _)
    · intro call hm hfm ticket sees
      obtain ⟨id, device, hk, unique⟩ :=
        tokens.seen _ (mem_of_closed hm) hfm _ sees
      refine ⟨id, device, mem_append_left _ hk, ?_⟩
      intro other hi hs
      rcases mem_snoc.mp hi with earlier | new
      · exact unique _ (fewer _ earlier) hs
      · -- a new ticket has a new token, and what was seen had been drawn
        rw [new] at hs
        change ticketId = ticket.ticketId at hs
        exact absurd (hs ▸ hk) undrawn
  | attached =>
    refine tokens.fewer (fun _ hm => (mem_retain.mp hm).1) (fun _ hm => mem_append_left _ hm) ?_
    exact fun _ hm => .inl (mem_of_closed hm)
  | @sweeping _ scope sweep =>
    obtain ⟨_, hs, stages⟩ := calls_sweepSection _ _ _ _
    refine tokens.fewer ?_ ?_ ?_
    · cases sweep with
      | barred => exact fun _ hm => (mem_retain.mp hm).1
      | begun | purged | swept => cases scope <;> exact fun _ hm => hm
    · cases sweep <;> cases scope <;> exact fun _ hm => hm
    · intro call hm
      rw [hs] at hm
      rcases mem_proceed hm with old | new
      · exact .inl old
      · obtain ⟨_, rfl⟩ := stages _ new
        exact .inr (.inl rfl)

theorem tokens_vacant : Tokens vacant where
  tickets := fun _ hm => nomatch hm
  seen := fun _ hm => nomatch hm

end

section

def Sweep.isBarred : Sweep → Bool
  | .begun => false
  | _ => true

def Sweep.isPurged : Sweep → Bool
  | .begun | .barred => false
  | _ => true

def Sweep.isSwept : Sweep → Bool
  | .swept _ => true
  | _ => false

/-- A sweep of the scope has come as far as the stage, or has returned. -/
def Past (system : MobileSystem) (stage : Sweep → Bool) (scope : Scope) : Prop :=
  (∃ sweep, .sweeping scope sweep ∈ system.calls ∧ stage sweep = true) ∨
    .returned scope ∈ system.log

def Bars (system : MobileSystem) : Scope → Prop
  | .device userId deviceKeyId => (userId, deviceKeyId) ∈ system.revokedKeys
  | .everything => system.runtimeDisabled = true

/-- The ticket of a call that has passed the check which sweeps of the scope bar. -/
def Call.passed : Scope → Call → Option Ticket
  | .device _ _, .admitted _ ticket | .device _ _, .cleared _ ticket
  | .everything, .cleared _ ticket => some ticket
  | _, _ => none

structure Swept (system : MobileSystem) : Prop where
  bars : ∀ scope, Past system Sweep.isBarred scope → Bars system scope
  tickets : ∀ scope, Past system Sweep.isPurged scope →
    ∀ call ∈ system.calls, ∀ ticket, call.passed scope = some ticket →
      scope.coversTicket ticket = true →
      ∀ other ∈ system.tickets.rows, other.ticketId ≠ ticket.ticketId
  attaches : ∀ scope, Past system Sweep.isSwept scope →
    ∀ attach ∈ system.attaches.rows, scope.coversAttach attach = true → attach.listed = false
  stops : ∀ attach ∈ system.attaches.rows, attach.listed = false →
    attach.stop = true ∨ ∃ call ∈ system.calls, attach.attachId ∈ call.attachIds

variable {config : TerminalConfig} {secretHash : String → String} {before after : MobileSystem}

variable {system : MobileSystem} {scope : Scope} {index : Nat}
  {attaches : KeyedTable Attach.attachId} {attach : Attach} {old : Call} {attachIds : List String}
  {stage : Sweep → Bool} {call : Call}

theorem Past.mono {stage weaker : Sweep → Bool} (implies : ∀ sweep, stage sweep → weaker sweep)
    (past : Past system stage scope) : Past system weaker scope :=
  past.imp_left fun ⟨sweep, hm, hr⟩ => ⟨sweep, hm, implies sweep hr⟩

theorem Past.barred
    (past : Past system Sweep.isPurged scope) : Past system Sweep.isBarred scope := by
  refine past.mono ?_
  intro sweep purged
  cases sweep <;> first | rfl | cases purged

theorem Past.purged
    (past : Past system Sweep.isSwept scope) : Past system Sweep.isPurged scope := by
  refine past.mono ?_
  intro sweep swept
  cases sweep <;> first | rfl | cases swept

theorem seen_of_passed {ticket : Ticket}
    (hpa : call.passed scope = some ticket) : ∃ shown, call.seen = some (shown, ticket) := by
  unfold Call.passed at hpa
  split at hpa
  · cases hpa
    exact ⟨_, rfl⟩
  · cases hpa
    exact ⟨_, rfl⟩
  · cases hpa
    exact ⟨_, rfl⟩
  · cases hpa

/-- A call that is no sweep, or one that has just begun. -/
def Call.isMild : Call → Bool
  | .sweeping _ .begun => true
  | .sweeping _ _ => false
  | _ => true

structure Mild (before after : MobileSystem) : Prop where
  calls : ∀ call ∈ after.calls, call ∈ before.calls ∨ call.isMild = true
  kept : ∀ call ∈ before.calls, call ∈ after.calls ∨ call.attachIds = []
  log : ∀ scope, .returned scope ∈ after.log → .returned scope ∈ before.log
  keys : after.revokedKeys = before.revokedKeys
  flag : after.runtimeDisabled = before.runtimeDisabled

theorem Mild.past (mild : Mild before after)
    (first : stage .begun = false) (past : Past after stage scope) :
    Past before stage scope := by
  rcases past with ⟨sweep, hm, hr⟩ | returned
  · rcases mild.calls _ hm with old | new
    · exact .inl ⟨_, old, hr⟩
    · cases sweep with
      | begun =>
        rw [first] at hr
        cases hr
      | barred | purged | swept => cases new
  · exact .inr (mild.log _ returned)

theorem Mild.bars (mild : Mild before after) (bars : Bars before scope) : Bars after scope := by
  cases scope with
  | device =>
    change _ ∈ after.revokedKeys
    rw [mild.keys]
    exact bars
  | everything =>
    change after.runtimeDisabled = true
    rw [mild.flag]
    exact bars

/-- What a mild step has to respect: a call passes a check only where it is not barred, tickets are new
or were there, and a new attach is not one that a sweep has passed over. -/
theorem Swept.mild (swept : Swept before) (tokens : Tokens before) (mild : Mild before after)
    (passes : ∀ call ∈ after.calls, ∀ scope ticket, call.passed scope = some ticket →
      (∃ old ∈ before.calls, old.passed scope = some ticket) ∨
        (scope.coversTicket ticket → ¬Bars before scope))
    (tickets : ∀ ticket ∈ after.tickets.rows, ticket ∈ before.tickets.rows ∨
      ticket.ticketId ∉ before.drawn)
    (attaches : ∀ attach ∈ after.attaches.rows, attach ∈ before.attaches.rows ∨
      attach.listed ∧ ∀ scope, Past before Sweep.isPurged scope →
        scope.coversAttach attach = false) : Swept after where
  bars := fun scope past => mild.bars (swept.bars scope (mild.past rfl past))
  tickets := by
    intro scope past call hm ticket hpa covers other hi
    have purged := mild.past rfl past
    rcases passes call hm scope ticket hpa with ⟨old, ht, hs⟩ | free
    · rcases tickets other hi with earlier | new
      · exact swept.tickets _ purged old ht _ hs covers _ earlier
      · intro heq
        obtain ⟨hfm, sees⟩ := seen_of_passed hs
        exact new (heq ▸ (tokens.seen old ht hfm _ sees).2.2.1)
    · exact absurd (swept.bars _ purged.barred) (free covers)
  attaches := by
    intro scope past attach hm covers
    have ht := mild.past rfl past
    rcases attaches attach hm with old | ⟨-, uncovered⟩
    · exact swept.attaches _ ht _ old covers
    · rw [uncovered _ ht.purged] at covers
      cases covers
  stops := by
    intro attach hm unlisted
    rcases attaches attach hm with old | ⟨hli, -⟩
    · rcases swept.stops attach old unlisted with hsd | ⟨call, ht, holds⟩
      · exact .inl hsd
      · rcases mild.kept call ht with still | idle
        · exact .inr ⟨_, still, holds⟩
        · rw [idle] at holds
          cases holds
    · rw [hli] at unlisted
      cases unlisted

theorem Swept.of_calls (swept : Swept before) (tokens : Tokens before) (mild : Mild before after)
    (passes : ∀ call ∈ after.calls, call ∈ before.calls ∨ ∀ scope, call.passed scope = none)
    (tickets : ∀ ticket ∈ after.tickets.rows, ticket ∈ before.tickets.rows)
    (attaches : ∀ attach ∈ after.attaches.rows, attach ∈ before.attaches.rows) : Swept after := by
  refine swept.mild tokens mild ?_ (fun _ hm => .inl (tickets _ hm))
    fun _ hm => .inl (attaches _ hm)
  intro call hm scope ticket hpa
  rcases passes call hm with old | none_passed
  · exact .inl ⟨_, old, hpa⟩
  · rw [none_passed] at hpa
    cases hpa

theorem Mild.proceed (ht : before.calls[index]? = some old)
    (idle : old.attachIds = []) (mild : ∀ call, next = some call → call.isMild) :
    Mild before (before.proceed index next) where
  calls := by
    intro call hm
    exact (mem_proceed hm).imp_right (mild _)
  kept := by
    intro call hm
    rcases mem_proceed_of_mem hm with stays | hs
    · exact .inl stays
    · rw [ht] at hs
      cases hs
      exact .inr idle
  log := fun _ hm => hm
  keys := rfl
  flag := rfl

theorem Mild.of_calls (calls : after.calls = before.calls)
    (log : ∀ scope, .returned scope ∈ after.log → .returned scope ∈ before.log)
    (keys : after.revokedKeys = before.revokedKeys)
    (flag : after.runtimeDisabled = before.runtimeDisabled) : Mild before after where
  calls := fun _ hm => .inl (calls ▸ hm)
  kept := fun _ hm => .inl (calls ▸ hm)
  log := log
  keys := keys
  flag := flag

theorem Mild.start (mild : call.isMild) : Mild before (before.start call) where
  calls := by
    intro _ hm
    rcases mem_start hm with old | rfl
    · exact .inl old
    · exact .inr mild
  kept := fun _ hm => .inl (mem_append_left _ hm)
  log := fun _ hm => hm
  keys := rfl
  flag := rfl

theorem Mild.answer (mild : Mild before after) {answer : Answer}
    (other : ∀ scope, answer ≠ .returned scope) : Mild before (after.answer answer) :=
  { mild with
    log := by
      intro scope hm
      rcases mem_snoc.mp hm with old | new
      · exact mild.log _ old
      · exact absurd new.symm (other _) }

theorem Mild.closing (ht : before.calls[index]? = some old)
    (idle : old.attachIds = []) {answer : Answer} (other : ∀ scope, answer ≠ .returned scope)
    {tickets : KeyedTable Ticket.ticketId} {drawn : List String} :
    Mild before ({ before.proceed index none with tickets, attaches, drawn }.answer answer) := by
  refine Mild.answer ?_ other
  have mild : Mild before (before.proceed index none) := .proceed ht idle (by rintro _ ⟨⟩)
  exact ⟨mild.calls, mild.kept, mild.log, mild.keys, mild.flag⟩

/-- Where a sweep has come a stage further, only its own scope is past a new stage. -/
theorem past_of_carried {scope other : Scope} {sweep : Sweep}
    (calls : after.calls = (before.proceed index (some (.sweeping scope sweep))).calls)
    (log : after.log = before.log) (past : Past after stage other) :
    Past before stage other ∨ other = scope ∧ stage sweep := by
  rcases past with ⟨hr, hm, such⟩ | returned
  · rw [calls] at hm
    rcases mem_proceed hm with old | new
    · exact .inl (.inl ⟨hr, old, such⟩)
    · cases new
      exact .inr ⟨rfl, such⟩
  · exact .inl (.inr (log ▸ returned))

theorem bars_bar (system : MobileSystem) (scope : Scope) : Bars (bar system scope) scope := by
  cases scope with
  | device => exact mem_cons_self
  | everything => rfl

theorem Bars.bar (bars : Bars system scope) (other : Scope) : Bars (bar system other) scope := by
  cases scope with
  | device =>
    cases other with
    | device => exact mem_cons_of_mem _ bars
    | everything => exact bars
  | everything =>
    cases other with
    | device => exact bars
    | everything => rfl

theorem Swept.carried {sweep : Sweep} (swept : Swept before)
    (ht : before.calls[index]? = some old) (idle : old.attachIds = [])
    (calls : after.calls = (before.proceed index (some (.sweeping scope sweep))).calls)
    (log : after.log = before.log) (bars : ∀ other, Bars before other → Bars after other)
    (own : Bars after scope)
    (tickets : ∀ ticket ∈ after.tickets.rows, ticket ∈ before.tickets.rows)
    (purged : sweep.isPurged → ∀ call ∈ before.calls, ∀ ticket, call.passed scope = some ticket →
      scope.coversTicket ticket → ∀ other ∈ after.tickets.rows, other.ticketId ≠ ticket.ticketId)
    (attaches : ∀ attach ∈ after.attaches.rows, ∃ former ∈ before.attaches.rows,
      attach.attachId = former.attachId ∧ attach.stop = former.stop ∧
      (∀ other : Scope, other.coversAttach attach = other.coversAttach former) ∧
      (former.listed = false → attach.listed = false) ∧
      (attach.listed = false → former.listed = false ∨
        former.attachId ∈ (Call.sweeping scope sweep).attachIds) ∧
      (sweep.isSwept → scope.coversAttach attach → attach.listed = false)) : Swept after := by
  refine ⟨?_, ?_, ?_, ?_⟩
  · intro other past
    rcases past_of_carried calls log past with earlier | ⟨rfl, -⟩
    · exact bars _ (swept.bars _ earlier)
    · exact own
  · intro other past call hm ticket hpa covers one hi
    rw [calls] at hm
    rcases mem_proceed hm with stays | new
    · rcases past_of_carried calls log past with earlier | ⟨rfl, such⟩
      · exact swept.tickets _ earlier _ stays _ hpa covers _ (tickets _ hi)
      · exact purged such _ stays _ hpa covers _ hi
    · cases new
      cases other <;> cases hpa
  · intro other past attach hm covers
    obtain ⟨former, hi, -, -, hs, unlisted, -, such⟩ := attaches attach hm
    rcases past_of_carried calls log past with earlier | ⟨rfl, reaches⟩
    · exact unlisted (swept.attaches _ earlier _ hi (hs _ ▸ covers))
    · exact such reaches covers
  · intro attach hm unlisted
    obtain ⟨former, hi, id, stop, -, -, taken, -⟩ := attaches attach hm
    rw [id, stop, calls]
    rcases taken unlisted with was | holds
    · rcases swept.stops former hi was with hsd | ⟨call, there, holds⟩
      · exact .inl hsd
      · rcases mem_proceed_of_mem there with stays | hs
        · exact .inr ⟨_, stays, holds⟩
        · rw [ht] at hs
          cases hs
          rw [idle] at holds
          cases holds
    · exact .inr ⟨_, mem_append_right _ (mem_singleton_self _), holds⟩

theorem Swept.barring (swept : Swept before)
    (ht : before.calls[index]? = some (.sweeping scope .begun)) :
    Swept (sweepSection before index scope .begun) := by
  have bars : ∀ other, Bars (bar before scope) other →
      Bars (sweepSection before index scope .begun) other := by
    intro other holds
    cases other <;> exact holds
  refine @Swept.carried _ _ scope index _ .barred swept ht rfl (by cases scope <;> rfl)
    (by cases scope <;> rfl) (fun _ holds => bars _ (holds.bar _)) (bars _ (bars_bar _ _)) ?_
    (by rintro ⟨⟩) ?_
  · cases scope <;> exact fun _ hm => hm
  · intro attach hm
    refine ⟨attach, ?_, rfl, rfl, fun _ => rfl, id, .inl, by rintro ⟨⟩⟩
    cases scope <;> exact hm

theorem Swept.purging (swept : Swept before) (tokens : Tokens before)
    (ht : before.calls[index]? = some (.sweeping scope .barred)) :
    Swept (sweepSection before index scope .barred) := by
  have own := swept.bars scope (.inl ⟨.barred, mem_of_there ht, rfl⟩)
  refine @Swept.carried _ _ scope index _ .purged swept ht rfl rfl rfl ?_ ?_ ?_ ?_ ?_
  · intro other holds
    cases other <;> exact holds
  · cases scope <;> exact own
  · exact fun _ hm => (mem_retain.mp hm).1
  · -- what the call has seen is what the sweep has just removed
    intro _ call old _ hpa covers one hi hs
    obtain ⟨inMap, spared⟩ := mem_retain.mp hi
    obtain ⟨hfm, sees⟩ := seen_of_passed hpa
    rw [(tokens.seen _ old hfm _ sees).2.2.2 one inMap hs, covers] at spared
    cases spared
  · exact fun attach hm => ⟨attach, hm, rfl, rfl, fun _ => rfl, id, .inl, by rintro ⟨⟩⟩

theorem Swept.sweeping (swept : Swept before)
    (ht : before.calls[index]? = some (.sweeping scope .purged)) :
    Swept (sweepSection before index scope .purged) := by
  have hh : Past before Sweep.isPurged scope := .inl ⟨.purged, mem_of_there ht, rfl⟩
  have own := swept.bars _ hh.barred
  refine @Swept.carried _ _ scope index _ _ swept ht rfl rfl rfl ?_ ?_ (fun _ hm => hm) ?_ ?_
  · intro other holds
    cases other <;> exact holds
  · cases scope <;> exact own
  · exact fun _ call hm ticket => swept.tickets _ hh call hm ticket
  · intro attach hm
    obtain ⟨former, hi, rfl⟩ := mem_map.mp hm
    refine ⟨former, hi, ?_⟩
    split
    · next covers =>
        refine ⟨rfl, rfl, fun _ => rfl, fun _ => rfl, fun _ => ?_, fun _ _ => rfl⟩
        cases was : former.listed with
        | false => exact .inl rfl
        | true =>
          refine .inr (mem_map.mpr ⟨former, mem_filter.mpr ⟨hi, ?_⟩, rfl⟩)
          rw [was, covers]
          rfl
    · next spared =>
        exact ⟨rfl, rfl, fun _ => rfl, id, .inl, fun _ covers => absurd covers spared⟩

theorem mem_setStops (hm : attach ∈ (setStops attaches attachIds).rows) :
    ∃ old ∈ attaches.rows, attach.attachId = old.attachId ∧ attach.userId = old.userId ∧
      attach.deviceKeyId = old.deviceKeyId ∧ attach.listed = old.listed ∧
      attach.stop = (old.stop || attachIds.contains old.attachId) := by
  obtain ⟨old, hi, rfl⟩ := mem_map.mp hm
  refine ⟨old, hi, ?_⟩
  cases held : attachIds.contains old.attachId <;> simp

theorem Swept.stopping (swept : Swept before)
    (ht : before.calls[index]? = some (.sweeping scope (.swept attachIds))) :
    Swept (sweepSection before index scope (.swept attachIds)) := by
  have hh : ∀ stage : Sweep → Bool, stage (.swept attachIds) →
      Past before stage scope := fun _ such => .inl ⟨_, mem_of_there ht, such⟩
  have hca : ∀ stage other, stage (.swept attachIds) →
      Past (sweepSection before index scope (.swept attachIds)) stage other →
      Past before stage other := by
    intro stage other such past
    rcases past with ⟨hr, hm, stands⟩ | returned
    · exact .inl ⟨hr, mem_of_closed hm, stands⟩
    · rcases mem_snoc.mp returned with old | new
      · exact .inr old
      · cases new
        exact hh _ such
  refine ⟨?_, ?_, ?_, ?_⟩
  · intro other past
    have earlier := hca _ _ rfl past
    cases other <;> exact swept.bars _ earlier
  · intro other past call hm _ hpa
    exact swept.tickets _ (hca _ _ rfl past) _ (mem_of_closed hm) _ hpa
  · intro other past attach hm covers
    obtain ⟨old, hi, -, user, device, hli, -⟩ := mem_setStops hm
    rw [hli]
    refine swept.attaches _ (hca _ _ rfl past) old hi ?_
    unfold Scope.coversAttach at covers ⊢
    rw [← user, ← device]
    exact covers
  · intro attach hm unlisted
    obtain ⟨old, hi, id, -, -, hli, stop⟩ := mem_setStops hm
    rw [hli] at unlisted
    rw [id, stop]
    rcases swept.stops old hi unlisted with hsd | ⟨call, held, holds⟩
    · rw [hsd]
      exact .inl rfl
    · rcases mem_proceed_of_mem held with stays | hs
      · exact .inr ⟨_, stays, holds⟩
      · rw [ht] at hs
        cases hs
        have inHand : attachIds.contains old.attachId := contains_iff_mem.mpr holds
        rw [inHand, Bool.or_true]
        exact .inl rfl

theorem Swept.sweep (swept : Swept before) (tokens : Tokens before)
    {sweep : Sweep} (ht : before.calls[index]? = some (.sweeping scope sweep)) :
    Swept (sweepSection before index scope sweep) := by
  cases sweep with
  | begun => exact swept.barring ht
  | barred => exact swept.purging tokens ht
  | purged => exact swept.sweeping ht
  | swept => exact swept.stopping ht

end

section

variable {config : TerminalConfig} {secretHash : String → String} {before after : MobileSystem}

theorem Swept.carry (swept : Swept before) (tokens : Tokens before) {old call : Call}
    (ht : before.calls[index]? = some old) (idle : old.attachIds = [])
    (mild : call.isMild)
    (passes : ∀ scope ticket, call.passed scope = some ticket → old.passed scope = some ticket ∨
      (scope.coversTicket ticket → ¬Bars before scope)) :
    Swept (before.proceed index (some call)) := by
  refine swept.mild tokens (.proceed ht idle ?_) ?_ (fun _ hm => .inl hm) fun _ hm => .inl hm
  · rintro _ ⟨⟩
    exact mild
  · intro _ hm scope ticket hpa
    rcases mem_proceed hm with stays | new
    · exact .inl ⟨_, stays, hpa⟩
    · cases new
      exact (passes _ _ hpa).imp_left fun hs => ⟨old, mem_of_there ht, hs⟩

theorem Swept.move (swept : Swept before) (tokens : Tokens before)
    (move : Move config secretHash before after) : Swept after := by
  cases move with
  | still => exact swept
  | tick => exact ⟨swept.bars, swept.tickets, swept.attaches, swept.stops⟩
  | refused =>
    refine swept.of_calls tokens (.answer (.of_calls rfl (fun _ hm => hm) rfl rfl) ?_)
      (fun _ hm => .inl hm) (fun _ hm => hm) fun _ hm => hm
    rintro scope ⟨⟩
  | @rejected _ _ ht idle _ fewer =>
    refine swept.of_calls tokens (.closing ht idle (by rintro _ ⟨⟩)) ?_ fewer fun _ hm => hm
    exact fun _ hm => .inl (mem_of_closed hm)
  | @begun call first =>
    have mild : call.isMild ∧ ∀ scope, call.passed scope = none := by
      unfold Call.isFirst at first
      split at first
      · exact ⟨rfl, fun scope => by cases scope <;> rfl⟩
      · exact ⟨rfl, fun scope => by cases scope <;> rfl⟩
      · cases first
    refine swept.of_calls tokens (.start mild.1) ?_ (fun _ hm => hm) fun _ hm => hm
    intro other hm
    rcases mem_start hm with stays | rfl
    · exact .inl stays
    · exact .inr mild.2
  | presented =>
    refine swept.of_calls tokens (.start rfl) ?_ (fun _ hm => hm) fun _ hm => hm
    intro other hm
    rcases mem_start hm with stays | rfl
    · exact .inl stays
    · exact .inr fun scope => by cases scope <;> rfl
  | authorized ht | looked ht =>
    refine swept.carry tokens ht rfl rfl ?_
    intro scope ticket hpa
    cases scope <;> cases hpa
  | @admitted _ hfm seen ht unrevoked =>
    refine swept.carry tokens ht rfl rfl ?_
    intro scope ticket hpa
    cases scope with
    | everything => cases hpa
    | device =>
      cases hpa
      refine .inr ?_
      intro covers barred
      have own := (tokens.seen _ (mem_of_there ht) hfm _ rfl).2.1
      simp only [Scope.coversTicket, Scope.covers, Bool.and_eq_true, decide_eq_true_eq] at covers
      rw [covers.1, ← own, covers.2] at unrevoked
      exact unrevoked barred
  | cleared ht allowed =>
    refine swept.carry tokens ht rfl rfl ?_
    intro scope ticket hpa
    cases scope with
    | everything =>
      refine .inr ?_
      intro _ barred
      change before.runtimeDisabled = true at barred
      rw [allowed] at barred
      cases barred
    | device =>
      cases hpa
      exact .inl rfl
  | @issued _ _ _ _ _ ht undrawn _ _ fewer =>
    refine swept.mild tokens (.closing ht rfl (by rintro _ ⟨⟩)) ?_ ?_ fun _ hm => .inl hm
    · intro call hm scope ticket hpa
      exact .inl ⟨_, mem_of_closed hm, hpa⟩
    · intro ticket hm
      rcases mem_snoc.mp hm with old | rfl
      · exact .inl (fewer _ old)
      · exact .inr undrawn
  | @attached _ hfm seen ticket _ ht _ hf =>
    refine swept.mild tokens (.closing ht rfl (by rintro _ ⟨⟩)) ?_
      (fun _ hm => .inl (mem_retain.mp hm).1) ?_
    · intro call hm scope ticket hpa
      exact .inl ⟨_, mem_of_closed hm, hpa⟩
    · intro _ hm
      rcases mem_snoc.mp hm with old | rfl
      · exact .inl old
      · refine .inr ⟨rfl, ?_⟩
        intro scope purged
        -- the ticket under the identifier is the one that the call has passed its checks with
        obtain ⟨inMap, hna⟩ := find_some hf
        obtain ⟨id, -, -, unique⟩ := tokens.seen _ (mem_of_there ht) hfm _ rfl
        have hs : ticket = seen := unique _ inMap (hna.trans id.symm)
        refine Bool.eq_false_iff.mpr ?_
        intro covers
        refine swept.tickets _ purged _ (mem_of_there ht) seen ?_ ?_ _ inMap ?_
        · cases scope <;> rfl
        · rw [← hs]
          exact covers
        · rw [hs]
  | detached =>
    exact swept.of_calls tokens (.of_calls rfl (fun _ hm => hm) rfl rfl)
      (fun _ hm => .inl hm) (fun _ hm => hm)
      fun _ hm => (mem_retain.mp hm).1
  | sweeping ht => exact swept.sweep tokens ht

theorem swept_vacant : Swept vacant where
  bars := by
    rintro _ (⟨_, hm, -⟩ | hm) <;> cases hm
  tickets := by
    intro _ _ _ hm
    cases hm
  attaches := by
    intro _ _ attach hm
    cases hm
  stops := by
    intro attach hm
    cases hm

theorem tokens_and_swept_runMobile (events : List MobileEvent) :
    Tokens (runMobile config secretHash vacant events) ∧
      Swept (runMobile config secretHash vacant events) := by
  have hke : ∀ before after, Move config secretHash before after →
      (Tokens before ∧ Swept before) → Tokens after ∧ Swept after :=
    fun _ _ move holds => ⟨holds.1.move move, holds.2.move holds.1 move⟩
  exact @runMobile_of_moves _ _ vacant (fun _ => Tokens _ ∧ Swept _)
    hke ⟨tokens_vacant, swept_vacant⟩ _

/-- No step takes back a stop flag, and a step that adds an attach adds it to the map. -/
theorem former_of_move (move : Move config secretHash before after) {attach : Attach}
    (hm : attach ∈ after.attaches.rows) :
    attach.listed = true ∨ ∃ former ∈ before.attaches.rows,
      (∀ scope : Scope, scope.coversAttach attach = scope.coversAttach former) ∧
        (former.stop = true → attach.stop = true) := by
  have unchanged : attach ∈ before.attaches.rows → attach.listed = true ∨
      ∃ former ∈ before.attaches.rows,
        (∀ scope : Scope, scope.coversAttach attach = scope.coversAttach former) ∧
          (former.stop = true → attach.stop = true) :=
    fun old => .inr ⟨attach, old, fun _ => rfl, id⟩
  cases move with
  | still | tick | refused | rejected | begun | presented | authorized | looked | admitted
  | cleared | issued => exact unchanged hm
  | detached => exact unchanged (mem_retain.mp hm).1
  | attached =>
    rcases mem_snoc.mp hm with old | rfl
    · exact unchanged old
    · exact .inl rfl
  | @sweeping _ scope sweep =>
    cases sweep with
    | begun => cases scope <;> exact unchanged hm
    | barred => exact unchanged hm
    | purged =>
      obtain ⟨former, hi, rfl⟩ := mem_map.mp hm
      refine .inr ⟨former, hi, ?_⟩
      split <;> exact ⟨fun _ => rfl, id⟩
    | swept =>
      obtain ⟨former, hi, -, user, device, -, stop⟩ := mem_setStops hm
      refine .inr ⟨former, hi, ?_, ?_⟩
      · intro other
        simp only [Scope.coversAttach, user, device]
      · intro halted
        rw [stop, halted, Bool.true_or]

def Answer.swept : Answer → Option Scope
  | .returned scope => some scope
  | _ => none

/-- A step returns from the first sweep of a scope only if no other sweep has the stop flag of an attach
in hand that the scope covers. -/
def Awaits (before after : MobileSystem) : Prop :=
  ∀ scope ∈ after.log.filterMap Answer.swept, .returned scope ∉ before.log →
    ∀ attach ∈ after.attaches.rows, scope.coversAttach attach = true →
      ∀ call ∈ after.calls, attach.attachId ∉ call.attachIds

def Awaited (config : TerminalConfig) (secretHash : String → String)
    (events : List MobileEvent) : Prop :=
  Throughout (fun system event => Awaits system (stepMobile config secretHash system event))
    (fun system event => (stepMobile config secretHash system event, ())) vacant events

/-- Every attach that a finished sweep covers has been told to stop. -/
def Halted (system : MobileSystem) : Prop :=
  ∀ scope, .returned scope ∈ system.log → ∀ attach ∈ system.attaches.rows,
    scope.coversAttach attach = true → attach.stop = true

theorem Halted.move (halted : Halted before) (swept : Swept after)
    (move : Move config secretHash before after) (awaits : Awaits before after) :
    Halted after := by
  intro scope returned attach hm covers
  have unlisted := swept.attaches scope (.inr returned) attach hm covers
  by_cases earlier : .returned scope ∈ before.log
  · rcases former_of_move move hm with hli | ⟨former, hi, hs, kept⟩
    · rw [unlisted] at hli
      cases hli
    · exact kept (halted scope earlier former hi (hs scope ▸ covers))
  · rcases swept.stops attach hm unlisted with hsd | ⟨call, ht, holds⟩
    · exact hsd
    · have first : scope ∈ after.log.filterMap Answer.swept :=
        mem_filterMap.mpr ⟨_, returned, rfl⟩
      exact absurd holds (awaits scope first earlier attach hm covers call ht)

theorem halted_runMobile {events : List MobileEvent} (awaited : Awaited config secretHash events) :
    Halted (runMobile config secretHash vacant events) := by
  have hke : ∀ system event, (Tokens system ∧ Swept system ∧ Halted system) →
      Awaits system (stepMobile config secretHash system event) →
      Tokens (stepMobile config secretHash system event) ∧
        Swept (stepMobile config secretHash system event) ∧
        Halted (stepMobile config secretHash system event) := by
    rintro system event ⟨tokens, swept, halted⟩ awaits
    have move := @move_stepMobile config secretHash system event
    have later := swept.move tokens move
    exact ⟨tokens.move move, later, halted.move later move awaits⟩
  have start : Tokens vacant ∧ Swept vacant ∧ Halted vacant :=
    ⟨tokens_vacant, swept_vacant, fun _ hm => by cases hm⟩
  exact (@reached_of_allowed _ _ _ _ (fun system => Tokens system ∧ Swept system ∧ Halted system)
    _ hke _ start _ awaited).2.2

/-- Once a revocation or a disabling has returned, no attach that it covers is active. Where sweeps
wait for each other, each one that it covers and that still runs has been told to stop. -/
theorem no_active_attach_after_return (config : TerminalConfig) (secretHash : String → String)
    (events : List MobileEvent) (awaited : Awaited config secretHash events) (scope : Scope)
    (returned : .returned scope ∈ (runMobile config secretHash vacant events).log) :
    (∀ attach ∈ (runMobile config secretHash vacant events).active,
        scope.coversAttach attach = false) ∧
      ∀ attach ∈ (runMobile config secretHash vacant events).attaches.rows,
        scope.coversAttach attach = true → attach.stop = true := by
  obtain ⟨-, swept⟩ := @tokens_and_swept_runMobile config secretHash events
  refine ⟨?_, halted_runMobile awaited scope returned⟩
  intro attach member
  obtain ⟨inside, listed⟩ := mem_filter.mp member
  refine Bool.eq_false_iff.mpr ?_
  intro covers
  rw [swept.attaches scope (.inr returned) attach inside covers] at listed
  cases listed

def samplePhone : Draft where
  userId := "owner"
  deviceKeyId := "phone"
  actorEmail := "owner@example.org"
  sessionId := "s1"
  provider := "claude"
  node := "primary"
  tmuxSession := "claude-s1"
  tmuxSocketName := none

def sampleFrame : AuthFrame where
  ticketId := some "att_1"
  ticketSecret := some "secret"
  deviceKeyId := some "phone"
  nonce := some "n1"
  signature := some "sig"

def sampleTerminals : TerminalConfig where
  enabled := true
  ticketTtlSeconds := 30
  maxConcurrentAttachesGlobal := 4
  maxConcurrentAttachesPerUser := 1
  maxConcurrentAttachesPerSession := 1

def attachPhone : List MobileEvent :=
  [.ask samplePhone, .authorize 0 true, .issue 0 "att_1" "secret", .present sampleFrame, .look 0,
    .vet 0 (some "owner") true, .clear 0 (.ok ()), .take 0 "a1"]

/-- The phone is revoked while it is attached, and a disabling goes through its sections in turn with
the revocation; it comes to the attaches after the revocation has returned. -/
def revokeWhileDisabling : List MobileEvent :=
  attachPhone ++ [.revoke "owner" "phone", .disable] ++ List.replicate 5 (.advance 0) ++
    [.advance 1, .advance 0, .advance 0]

theorem no_active_attach_after_return_of_phone :
    Answer.returned (.device "owner" "phone") ∈
        (runMobile sampleTerminals id vacant revokeWhileDisabling).log ∧
      Answer.returned .everything ∈
        (runMobile sampleTerminals id vacant revokeWhileDisabling).log ∧
      (∃ attach ∈ (runMobile sampleTerminals id vacant revokeWhileDisabling).attaches.rows,
        attach.attachId = "a1") ∧
      ∀ attach ∈ (runMobile sampleTerminals id vacant revokeWhileDisabling).attaches.rows,
        (Scope.device "owner" "phone").coversAttach attach = true → attach.stop = true := by
  have awaited : Awaited sampleTerminals id revokeWhileDisabling := by
    unfold Awaited Awaits
    decide +kernel
  have returned : Answer.returned (.device "owner" "phone") ∈
      (runMobile sampleTerminals id vacant revokeWhileDisabling).log := by
    decide +kernel
  refine ⟨returned, by decide +kernel, by decide +kernel, ?_⟩
  exact (no_active_attach_after_return sampleTerminals id _ awaited _ returned).2

/-- The phone is revoked twice. The first revocation has taken the attach out of the map and not yet
set its flag; the second finds the map empty. -/
def revokeTwice : List MobileEvent :=
  attachPhone ++ [.revoke "owner" "phone", .revoke "owner" "phone"] ++
    List.replicate 6 (.advance 0) ++ [.advance 1]

/-- The second revocation has returned, and the attach runs on with its stop flag unset. -/
theorem attach_runs_after_second_revocation :
    Answer.returned (.device "owner" "phone") ∈
        (runMobile sampleTerminals id vacant revokeTwice).log ∧
      ∃ attach ∈ (runMobile sampleTerminals id vacant revokeTwice).attaches.rows,
        (Scope.device "owner" "phone").coversAttach attach = true ∧ attach.stop = false := by
  decide +kernel

end

end SessionManager.Mobile
