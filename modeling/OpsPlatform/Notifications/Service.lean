import Mathlib.Data.List.Nodup
import Mathlib.Data.List.Range
import OpsPlatform.Interaction.Program
import OpsPlatform.Go.Basic

/-! The notifications package: the stored rows, the in-memory store, the `Notify` method the work
item service calls, and the two methods behind a user's inbox. -/
namespace OpsPlatform.Notifications
open OpsPlatform.Go Interaction Program

def errInvalidInput : Error := ⟨"invalid notification input"⟩
def errNotOwned : Error := ⟨"notification does not belong to this user"⟩
def errNotFound : Error := ⟨"notification not found"⟩

/-- The kind is a plain string at the seam; the service stores whatever it is given. -/
structure Notification where
  id : String
  recipientUserID : String
  workItemID : String
  kind : String
  message : String
  readAt : Option Time
  createdAt : Time
  deriving DecidableEq, Repr

structure MemoryStore where
  seq : ℕ
  entries : String → Option Notification

/-- The id `Create` gives to the notification numbered `n`. -/
def notificationID (n : ℕ) : String := sprintf04d "notification-" n

namespace MemoryStore

def new : MemoryStore := ⟨0,fun _ => none⟩

def create (s : MemoryStore) (notification : Notification) :
    Except Error Notification × MemoryStore :=
  let row := { notification with id := sprintf04d "notification-" (s.seq+1) }
  (.ok row, ⟨s.seq+1,Function.update s.entries row.id (some row)⟩)

def getByID (s : MemoryStore) (id : String) : Except Error Notification :=
  match s.entries id with
  | some notification => .ok notification
  | none => .error errNotFound

def update (s : MemoryStore) (notification : Notification) :
    Except Error Notification × MemoryStore :=
  if (s.entries notification.id).isSome then
    (.ok notification, ⟨s.seq,Function.update s.entries notification.id (some notification)⟩)
  else (.error errNotFound, s)

/-- The order of a `range` over the map: each key once. -/
def Visits (s : MemoryStore) (visited : List Notification) : Prop :=
  ∃ ids : List String, ids.Nodup ∧ (∀ id, id ∈ ids ↔ (s.entries id).isSome) ∧
    visited = ids.filterMap s.entries

/-- The rows in the order of their numbers. -/
def rows (s : MemoryStore) : List Notification :=
  ((List.range' 1 s.seq).map notificationID).filterMap s.entries

/-- `ListByRecipientUserID`, where the rows are visited in this order. -/
def listByRecipientUserID (visited : List Notification) (recipientUserID : String)
    (onlyUnread : Bool) : List Notification :=
  sliceStable (fun a b => decide (a.createdAt < b.createdAt)) (visited.filter fun entry =>
    entry.recipientUserID = recipientUserID ∧ ¬ (onlyUnread = true ∧ entry.readAt ≠ none))

lemma entries_create (s : MemoryStore) (notification : Notification) :
    (s.create notification).2.entries = Function.update s.entries (notificationID (s.seq+1))
      (some { notification with id := notificationID (s.seq+1) }) := rfl

/-- Every row has the number of its key, and no number is ahead of the counter. -/
def Numbered (s : MemoryStore) : Prop :=
  ∀ id row, s.entries id = some row → row.id = id ∧ ∃ n, 1 ≤ n ∧ n ≤ s.seq ∧ id = notificationID n

theorem new_numbered : new.Numbered := fun _ _ h => by cases h

theorem Numbered.create {s : MemoryStore} (h : s.Numbered) (notification : Notification) :
    (s.create notification).2.Numbered := by
  intro id row hrow
  rw [entries_create, Function.update_apply] at hrow
  split_ifs at hrow with hid
  · cases hrow
    exact ⟨hid.symm,s.seq+1,by omega,le_refl _,hid⟩
  · obtain ⟨hkey,n,hpos,hle,hnumber⟩ := h id row hrow
    exact ⟨hkey,n,hpos,by change n ≤ s.seq+1; omega,hnumber⟩

/-- A new notification comes after all earlier ones. -/
theorem rows_create (s : MemoryStore) (notification : Notification) :
    (s.create notification).2.rows =
      s.rows ++ [{ notification with id := notificationID (s.seq+1) }] := by
  have hold : ∀ id ∈ (List.range' 1 s.seq).map notificationID,
      (s.create notification).2.entries id = s.entries id := by
    intro id hid
    obtain ⟨n,hn,rfl⟩ := List.mem_map.mp hid
    rw [List.mem_range'_1] at hn
    have hne : notificationID n ≠ notificationID (s.seq+1) := by
      intro hsame
      have := sprintf04d_injective _ hsame
      omega
    rw [entries_create, Function.update_of_ne hne]
  have hnew : (s.create notification).2.entries (notificationID (s.seq+1)) =
      some { notification with id := notificationID (s.seq+1) } := by
    rw [entries_create, Function.update_self]
  unfold rows
  rw [show (s.create notification).2.seq = s.seq+1 from rfl, List.range'_1_concat,
    List.map_append, List.filterMap_append, List.filterMap_congr hold, Nat.add_comm 1]
  simp [hnew]

/-- Two `range`s over one map differ in their order only. -/
theorem Visits.perm {s : MemoryStore} {visited visited' : List Notification}
    (h : s.Visits visited) (h' : s.Visits visited') : visited.Perm visited' := by
  obtain ⟨ids,hnodup,hmem,rfl⟩ := h
  obtain ⟨ids',hnodup',hmem',rfl⟩ := h'
  apply List.Perm.filterMap
  rw [List.perm_ext_iff_of_nodup hnodup hnodup']
  intro id
  rw [hmem, hmem']

/-- The rows by number are one such order. -/
theorem Numbered.visits {s : MemoryStore} (h : s.Numbered) : s.Visits s.rows := by
  refine ⟨((List.range' 1 s.seq).map notificationID).filter fun id => (s.entries id).isSome,
    ((List.nodup_range').map (sprintf04d_injective _)).filter _,?_,?_⟩
  · intro id
    rw [List.mem_filter]
    refine ⟨fun hid => hid.2,fun hsome => ⟨?_,hsome⟩⟩
    obtain ⟨row,hrow⟩ := Option.isSome_iff_exists.mp hsome
    obtain ⟨-,n,hpos,hle,rfl⟩ := h id row hrow
    exact List.mem_map_of_mem (List.mem_range'_1.mpr ⟨hpos,by omega⟩)
  · rw [rows, List.filterMap_filter]
    refine List.filterMap_congr fun id _ => ?_
    cases s.entries id <;> rfl

end MemoryStore

/-- The calls the service makes on its store and its clock. -/
inductive Op
  | storeCreate (ctx : Context) (notification : Notification)
  | storeGetByID (ctx : Context) (id : String)
  | storeUpdate (ctx : Context) (notification : Notification)
  | storeListByRecipientUserID (ctx : Context) (recipientUserID : String) (onlyUnread : Bool)
  | now

abbrev Op.Res : Op → Type
  | .storeCreate _ _ => Except Error Notification
  | .storeGetByID _ _ => Except Error Notification
  | .storeUpdate _ _ => Except Error Notification
  | .storeListByRecipientUserID _ _ _ => Except Error (List Notification)
  | .now => Time

abbrev M (α : Type) := Program Op.Res Error α

/-- The in-memory store under a clock that shows `now`, ranging over the rows by number. -/
def exec (now : Time) : (op : Op) → MemoryStore → op.Res × MemoryStore
  | .storeCreate _ notification, s => s.create notification
  | .storeGetByID _ id, s => (s.getByID id, s)
  | .storeUpdate _ notification, s => s.update notification
  | .storeListByRecipientUserID _ recipientUserID onlyUnread, s =>
    (.ok (MemoryStore.listByRecipientUserID s.rows recipientUserID onlyUnread), s)
  | .now, s => (now, s)

/-- The same with the rows ranged over in any order. -/
def Answers (now : Time) : (op : Op) → MemoryStore → op.Res → MemoryStore → Prop
  | .storeListByRecipientUserID _ recipientUserID onlyUnread, s, r, t => t = s ∧
    ∃ visited, s.Visits visited ∧
      r = .ok (MemoryStore.listByRecipientUserID visited recipientUserID onlyUnread)
  | op, s, r, t => exec now op s = (r,t)

/-- `Service.Notify`. -/
def notify (ctx : Context) (recipientUserID workItemID kind message : String) : M Unit := do
  let recipientUserID := trimSpace recipientUserID
  let workItemID := trimSpace workItemID
  let message := trimSpace message
  failIf (recipientUserID = "" ∨ workItemID = "" ∨ kind = "" ∨ message = "") errInvalidInput
  let now ← call .now ret
  let _ ← call (.storeCreate ctx
    { id := "", recipientUserID, workItemID, kind, message, readAt := none, createdAt := now })
    fromResult
  return ()

/-- `Service.List`. -/
def list (ctx : Context) (recipientUserID : String) (onlyUnread : Bool) : M (List Notification) := do
  failIf (trimSpace recipientUserID = "") errInvalidInput
  call (.storeListByRecipientUserID ctx recipientUserID onlyUnread) fromResult

/-- `Service.MarkAsRead`. -/
def markAsRead (ctx : Context) (id recipientUserID : String) : M Notification := do
  failIf (trimSpace id = "" ∨ trimSpace recipientUserID = "") errInvalidInput
  let notification ← call (.storeGetByID ctx id) fromResult
  failIf (notification.recipientUserID ≠ recipientUserID) errNotOwned
  match notification.readAt with
  | none => do
    let now ← call .now ret
    call (.storeUpdate ctx { notification with readAt := some now }) fromResult
  | some _ => return notification

/-- `Notify` on the in-memory store. -/
def notifyMemory (now : Time) (ctx : Context) (recipientUserID workItemID kind message : String)
    (s : MemoryStore) : Except Error Unit × MemoryStore :=
  (notify ctx recipientUserID workItemID kind message).run (exec now) s

/-- What `Notify` hands to the store. -/
def newNotification (recipientUserID workItemID kind message : String) (now : Time) :
    Notification :=
  ⟨"",trimSpace recipientUserID,trimSpace workItemID,kind,trimSpace message,none,now⟩

/-- Nothing but a blank argument makes `Notify` fail; then nothing is stored. -/
theorem notifyMemory_eq (now : Time) (ctx : Context) (s : MemoryStore)
    (recipientUserID workItemID kind message : String) :
    notifyMemory now ctx recipientUserID workItemID kind message s =
      if trimSpace recipientUserID = "" ∨ trimSpace workItemID = "" ∨ kind = "" ∨
        trimSpace message = "" then (.error errInvalidInput,s)
      else (.ok (),(s.create (newNotification recipientUserID workItemID kind message now)).2) := by
  simp only [notifyMemory, notify, run_failIf_bind]
  split_ifs
  · rfl
  · simp [exec, MemoryStore.create, newNotification]

theorem notifyMemory_ok (now : Time) (ctx : Context) (s : MemoryStore)
    {recipientUserID workItemID kind message : String} (hrecipient : ¬ Blank recipientUserID)
    (hitem : ¬ Blank workItemID) (hkind : kind ≠ "") (hmessage : ¬ Blank message) :
    (notifyMemory now ctx recipientUserID workItemID kind message s).1 = .ok () := by
  have hguard : ¬ (trimSpace recipientUserID = "" ∨ trimSpace workItemID = "" ∨ kind = "" ∨
      trimSpace message = "") := by
    rintro (h | h | h | h)
    exacts [hrecipient h, hitem h, hkind h, hmessage h]
  rw [notifyMemory_eq, if_neg hguard]

theorem MemoryStore.Numbered.notifyMemory {s : MemoryStore} (h : s.Numbered) (now : Time)
    (ctx : Context) (recipientUserID workItemID kind message : String) :
    (notifyMemory now ctx recipientUserID workItemID kind message s).2.Numbered := by
  rw [notifyMemory_eq]
  split_ifs
  · exact h
  · exact h.create _

/-- The recipient of a stored notification may mark it as read. -/
theorem markAsRead_ok (now : Time) (ctx : Context) {s : MemoryStore} {n : Notification}
    (hn : s.entries n.id = some n) (hid : ¬ Blank n.id) (hrecipient : ¬ Blank n.recipientUserID) :
    ∃ row, ((markAsRead ctx n.id n.recipientUserID).run (exec now) s).1 = .ok row ∧
      row.id = n.id := by
  have hguard : ¬ (trimSpace n.id = "" ∨ trimSpace n.recipientUserID = "") := by
    rintro (h | h)
    exacts [hid h, hrecipient h]
  have hget : s.getByID n.id = .ok n := by rw [MemoryStore.getByID, hn]
  unfold markAsRead
  rw [failIf_false hguard, ret_bind, call_bind, run_call]
  simp only [exec, hget, fromResult_ok, ret_bind, ne_eq, not_true_eq_false, not_false_eq_true,
    failIf_false]
  cases n.readAt with
  | none => simp [exec, MemoryStore.update, hn]
  | some _ => simp

end OpsPlatform.Notifications
