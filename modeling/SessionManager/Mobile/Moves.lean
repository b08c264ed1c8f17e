import SessionManager.Mobile.Terminals

/-! What a step of the mobile terminals can do. Every step is one of a few moves, and each move says what
it has found in the stores; the invariants are proved from the moves. -/
namespace SessionManager.Mobile
open Foundation List

/-- The attaches whose stop flags a request has in hand. -/
def Call.attachIds : Call → List String
  | .sweeping _ (.swept attachIds) => attachIds
  | _ => []

def Call.isFirst : Call → Bool
  | .asking _ | .sweeping _ .begun => true
  | _ => false

inductive Move (config : TerminalConfig) (secretHash : String → String) (before : MobileSystem) :
    MobileSystem → Prop
  | still : Move config secretHash before before
  | tick (seconds : Nat) :
      Move config secretHash before { before with clock := before.clock + seconds }
  | refused (error : ApiError) : Move config secretHash before (before.answer (.rejected error))
  | rejected {index : Nat} {old : Call} (there : before.calls[index]? = some old)
      (idle : old.attachIds = []) {tickets : KeyedTable Ticket.ticketId}
      (fewer : ∀ ticket ∈ tickets.rows, ticket ∈ before.tickets.rows) (error : ApiError) :
      Move config secretHash before ({ before with tickets }.reject index error)
  | begun {call : Call} (first : call.isFirst = true) :
      Move config secretHash before (before.start call)
  | presented {frame : Presented} (read : frame.now = before.clock) :
      Move config secretHash before (before.start (.presented frame))
  | authorized {index : Nat} {draft : Draft}
      (there : before.calls[index]? = some (.asking draft)) :
      Move config secretHash before
        (before.proceed index (some (.authorized draft before.clock)))
  | looked {index : Nat} {frame : Presented} {ticket : Ticket}
      (there : before.calls[index]? = some (.presented frame))
      (found : before.tickets.find frame.ticketId = some ticket)
      (device : ticket.deviceKeyId = frame.deviceKeyId)
      (secret : ticket.secretHash = secretHash frame.ticketSecret)
      (live : frame.now < ticket.expiresAtUnix) :
      Move config secretHash before (before.proceed index (some (.looked frame ticket)))
  | admitted {index : Nat} {frame : Presented} {ticket : Ticket}
      (there : before.calls[index]? = some (.looked frame ticket))
      (unrevoked : (ticket.userId, frame.deviceKeyId) ∉ before.revokedKeys) :
      Move config secretHash before (before.proceed index (some (.admitted frame ticket)))
  | cleared {index : Nat} {frame : Presented} {ticket : Ticket}
      (there : before.calls[index]? = some (.admitted frame ticket))
      (allowed : before.runtimeDisabled = false) :
      Move config secretHash before (before.proceed index (some (.cleared frame ticket)))
  | issued {index : Nat} {draft : Draft} {now : Int} {ticketId : String} (ticketSecret : String)
      (there : before.calls[index]? = some (.authorized draft now))
      (undrawn : ticketId ∉ before.drawn) (allowed : before.runtimeDisabled = false)
      {kept : KeyedTable Ticket.ticketId}
      (fewer : ∀ ticket ∈ kept.rows, ticket ∈ before.tickets.rows)
      (fresh : kept.find (draft.ticket config now ticketId
        (secretHash ticketSecret)).ticketId = none) :
      Move config secretHash before
        ({ before.proceed index none with
          tickets := kept.insert (draft.ticket config now ticketId (secretHash ticketSecret)) fresh
          drawn := before.drawn ++ [ticketId] }.answer
            (.issued (draft.ticket config now ticketId (secretHash ticketSecret)) ticketSecret))
  | attached {index : Nat} {frame : Presented} {seen ticket : Ticket} {attachId : String}
      (there : before.calls[index]? = some (.cleared frame seen))
      (undrawn : attachId ∉ before.drawn)
      (found : before.tickets.find frame.ticketId = some ticket)
      (device : ticket.deviceKeyId = frame.deviceKeyId)
      (secret : ticket.secretHash = secretHash frame.ticketSecret)
      (live : frame.now < ticket.expiresAtUnix)
      (limits : enforceLimits config before.active.length
        (before.active.countP fun attach => attach.userId = ticket.userId)
        (before.active.countP fun attach => attach.sessionId = ticket.sessionId) = .ok ())
      (fresh : before.attaches.find (ticket.attach attachId frame.now).attachId = none) :
      Move config secretHash before
        ({ before.proceed index none with
          tickets := before.tickets.retain fun other => decide (other.ticketId ≠ frame.ticketId)
          attaches := before.attaches.insert (ticket.attach attachId frame.now) fresh
          drawn := before.drawn ++ [attachId] }.answer
            (.attached frame (ticket.attach attachId frame.now) before.clock))
  | detached (attachId : String) :
      Move config secretHash before
        { before with
          attaches := before.attaches.retain fun attach => attach.attachId ≠ attachId }
  | sweeping {index : Nat} {scope : Scope} {sweep : Sweep}
      (there : before.calls[index]? = some (.sweeping scope sweep)) :
      Move config secretHash before (sweepSection before index scope sweep)

section

variable {config : TerminalConfig} {secretHash : String → String} {system : MobileSystem}

variable {frame : Presented} {tickets left : KeyedTable Ticket.ticketId} {ticket : Ticket}
  {index : Nat}

theorem validate_ok (valid : validateMobileTerminalTicketSecret secretHash ticket frame = .ok ()) :
    ticket.deviceKeyId = frame.deviceKeyId ∧ ticket.secretHash = secretHash frame.ticketSecret := by
  unfold validateMobileTerminalTicketSecret at valid
  split at valid
  · cases valid
  split at valid
  · cases valid
  next device =>
    split at valid
    · cases valid
    next secret => exact ⟨not_not.mp device, not_not.mp secret⟩

theorem ticketForConsume_ok (hd : ticketForConsume secretHash tickets frame = (left, .ok ticket)) :
    tickets.find frame.ticketId = some ticket ∧ ticket.deviceKeyId = frame.deviceKeyId ∧
      ticket.secretHash = secretHash frame.ticketSecret ∧ frame.now < ticket.expiresAtUnix := by
  unfold ticketForConsume at hd
  split at hd
  · cases hd
  next hf =>
    split at hd
    · cases hd
    next valid =>
      split at hd
      · cases hd
      next live =>
        cases hd
        obtain ⟨device, secret⟩ := validate_ok valid
        exact ⟨hf, device, secret, Int.not_le.mp live⟩

theorem ticketForConsume_error
    {error : ApiError} (hd : ticketForConsume secretHash tickets frame = (left, .error error)) :
    ∀ ticket ∈ left.rows, ticket ∈ tickets.rows := by
  unfold ticketForConsume at hd
  split at hd
  · cases hd
    exact fun _ hm => hm
  split at hd
  · cases hd
    exact fun _ hm => hm
  · split at hd
    · cases hd
      exact fun _ hm => (KeyedTable.mem_retain.mp hm).1
    · cases hd

theorem move_issueSection {draft : Draft} {now : Int} {ticketId : String}
    (ht : system.calls[index]? = some (.authorized draft now))
    (undrawn : ticketId ∉ system.drawn) (ticketSecret : String) :
    Move config secretHash system
      (issueSection config secretHash system index draft now ticketId ticketSecret) := by
  have fewer : ∀ ticket ∈ (system.tickets.retain fun ticket =>
      decide (now < ticket.expiresAtUnix) &&
        !(Scope.device draft.userId draft.deviceKeyId).coversTicket ticket).rows,
      ticket ∈ system.tickets.rows :=
    fun _ hm => (KeyedTable.mem_retain.mp hm).1
  unfold issueSection
  dsimp only
  split
  · exact .rejected ht rfl fewer _
  split
  · exact .rejected ht rfl fewer _
  rename_i allowed
  split
  · next hfr =>
      exact .issued _ ht undrawn (Bool.not_eq_true _ ▸ allowed) fewer hfr
  · exact .still

theorem move_takeSection {seen : Ticket} {attachId : String}
    (ht : system.calls[index]? = some (.cleared frame seen))
    (undrawn : attachId ∉ system.drawn) :
    Move config secretHash system (takeSection config secretHash system index frame attachId) := by
  unfold takeSection
  split
  · next hd => exact .rejected ht rfl (ticketForConsume_error hd) _
  rename_i hd
  obtain ⟨hf, device, secret, live⟩ := ticketForConsume_ok hd
  split
  · exact .rejected ht rfl (fun _ hm => hm) _
  rename_i limits
  dsimp only
  split
  · next hfr => exact .attached ht undrawn hf device secret live limits hfr
  · exact .still

theorem move_stepMobile (event : MobileEvent) :
    Move config secretHash system (stepMobile config secretHash system event) := by
  cases event with
  | tick => exact .tick _
  | ask =>
    rw [stepMobile]
    split
    · exact .refused _
    · exact .begun rfl
  | authorize =>
    rw [stepMobile]
    split
    · next ht =>
        split
        · exact .rejected ht rfl (fun _ hm => hm) _
        · split
          · exact .rejected ht rfl (fun _ hm => hm) _
          · exact .authorized ht
    · exact .still
  | issue =>
    rw [stepMobile]
    split
    · next ht =>
        split
        · exact .still
        · next undrawn =>
            rw [contains_iff_mem] at undrawn
            exact move_issueSection ht undrawn _
    · exact .still
  | present =>
    rw [stepMobile]
    split
    · exact .refused _
    split
    · exact .refused _
    rename_i hd
    refine .presented ?_
    unfold presentedFrame at hd
    split at hd
    · cases hd
      rfl
    · cases hd
  | look =>
    rw [stepMobile]
    split
    · next ht =>
        split
        · next hd => exact .rejected ht rfl (ticketForConsume_error hd) _
        · next hd =>
            obtain ⟨hf, device, secret, live⟩ := ticketForConsume_ok hd
            exact .looked ht hf device secret live
    · exact .still
  | vet =>
    rw [stepMobile]
    split
    · next ht =>
        split
        · exact .rejected ht rfl (fun _ hm => hm) _
        split
        · exact .rejected ht rfl (fun _ hm => hm) _
        · next hpa =>
            rw [Bool.or_eq_true, not_or, contains_iff_mem] at hpa
            exact .admitted ht hpa.1
    · exact .still
  | clear =>
    rw [stepMobile]
    split
    · next ht =>
        split
        · exact .rejected ht rfl (fun _ hm => hm) _
        split
        · exact .rejected ht rfl (fun _ hm => hm) _
        · next hpa =>
            rw [Bool.not_eq_true', Bool.not_eq_false, MobileSystem.enabled,
              Bool.and_eq_true, Bool.not_eq_true'] at hpa
            exact .cleared ht hpa.2
    · exact .still
  | take =>
    rw [stepMobile]
    split
    · next ht =>
        split
        · exact .still
        · next undrawn =>
            rw [contains_iff_mem] at undrawn
            exact move_takeSection ht undrawn
    · exact .still
  | detach => exact .detached _
  | revoke | disable => exact .begun rfl
  | advance =>
    rw [stepMobile]
    split
    · next ht => exact .sweeping ht
    · exact .still

theorem runMobile_of_moves {invariant : MobileSystem → Prop}
    (hke : ∀ before after, Move config secretHash before after → invariant before → invariant after)
    (holds : invariant system) (events : List MobileEvent) :
    invariant (runMobile config secretHash system events) := by
  induction events generalizing system with
  | nil => exact holds
  | cons _ _ ih => exact ih (hke _ _ (move_stepMobile _) holds)

end

section

variable {system : MobileSystem} {index : Nat} {call : Call} {next : Option Call}

theorem mem_proceed (hm : call ∈ (system.proceed index next).calls) :
    call ∈ system.calls ∨ next = some call := by
  rcases mem_append.mp hm with old | new
  · exact .inl (mem_of_mem_eraseIdx old)
  · exact .inr (Option.mem_toList.mp new)

theorem mem_of_closed (hm : call ∈ (system.proceed index none).calls) : call ∈ system.calls :=
  (mem_proceed hm).resolve_right nofun

theorem mem_proceed_of_mem (hm : call ∈ system.calls) :
    call ∈ (system.proceed index next).calls ∨ system.calls[index]? = some call := by
  obtain ⟨place, ht⟩ := getElem?_of_mem hm
  by_cases hh : place = index
  · exact .inr (hh ▸ ht)
  · refine .inl (mem_append_left _ ?_)
    exact mem_eraseIdx_iff_getElem?.mpr ⟨_, hh, ht⟩

theorem mem_start {new : Call} (hm : call ∈ (system.start new).calls) :
    call ∈ system.calls ∨ call = new := by
  simpa [MobileSystem.start] using hm

theorem mem_of_there (ht : system.calls[index]? = some call) : call ∈ system.calls :=
  mem_of_getElem? ht

theorem calls_sweepSection (system : MobileSystem) (index : Nat) (scope : Scope) (sweep : Sweep) :
    ∃ next, (sweepSection system index scope sweep).calls = (system.proceed index next).calls ∧
      ∀ call, next = some call → ∃ stage, call = .sweeping scope stage := by
  cases sweep with
  | begun => exact ⟨some (.sweeping scope .barred), by cases scope <;> rfl, by simp⟩
  | barred => exact ⟨some (.sweeping _ .purged), rfl, by simp⟩
  | purged => exact ⟨some (.sweeping _ (.swept _)), rfl, by simp⟩
  | swept => exact ⟨none, rfl, by simp⟩

end

end SessionManager.Mobile
