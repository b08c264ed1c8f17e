import SessionManager.Reparent.Completion

/-! The queued messages while requests are applied. The transactions of the driver move routes, so they
keep every message up to its parent; the replay of an intent may add a message, and ordinary traffic
adds, delivers and removes some. -/
namespace SessionManager.Reparent
open Foundation Queue

section

structure SameMessages (before after : QueueDb) : Prop where
  rows : ∀ id, (messageRow after id).map unrouted = (messageRow before id).map unrouted
  ids : after.messages.map MessageRow.id = before.messages.map MessageRow.id

variable {db next : QueueDb}

theorem SameMessages.refl (db : QueueDb) : SameMessages db db := ⟨fun _ => rfl, rfl⟩

theorem SameMessages.of_rewritten {wakes messages : List String}
    (hrw : Rewritten wakes messages db next) : SameMessages db next :=
  ⟨hrw.unrouted, hrw.messageIds⟩

theorem SameMessages.find (hs : SameMessages db next) {id : String} {row : MessageRow}
    (hf : messageRow db id = some row) :
    ∃ other, messageRow next id = some other ∧ unrouted other = unrouted row := by
  have hh := hs.rows id
  rw [hf] at hh
  exact Option.map_eq_some_iff.mp hh

end

section

inductive QueueMove (ids : RowIds) (before after : QueueDb) : Prop
  | routes (same : SameMessages before after)
  | replays (write : ReplayWrite) (written : after = write.apply ids before)

theorem Drives.queueMove {env : Env} {ids : RowIds} {stores after : Stores} {pc next : Pc}
    (drives : Drives env ids stores pc after next) : QueueMove ids stores.queue after.queue := by
  cases drives with
  | quiescesQueue _ _ _ _ hw =>
    exact .routes (.of_rewritten (quiesceParentRouting_rewritten hw))
  | retargets _ _ _ _ _ _ _ _ _ hw =>
    exact .routes (.of_rewritten (retargetMessage_moves.rewritten hw))
  | sends => exact .replays _ rfl
  | _ => exact .routes (.refl _)

end

end SessionManager.Reparent
