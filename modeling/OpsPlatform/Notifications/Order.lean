import Mathlib.Data.Int.Order.Basic
import OpsPlatform.Go.Sort
import OpsPlatform.Interaction.Runs
import OpsPlatform.Interaction.Trace
import OpsPlatform.Notifications.Service

/-! The inbox against its history. The rows are what the calls so far have made of them; the order
of a listing is that of the calls as far as the clock can tell them apart. -/
namespace OpsPlatform.Notifications
open OpsPlatform.Go Interaction Program

namespace MemoryStore
variable {s : MemoryStore} {row : Notification}

lemma Numbered.entries_of_mem (h : s.Numbered) (hrow : row ∈ s.rows) : s.entries row.id = some row := by
  obtain ⟨id,_,hid⟩ := List.mem_filterMap.mp hrow
  rw [(h id row hid).1, hid]

lemma Numbered.nodup (h : s.Numbered) : s.rows.Nodup := by
  refine List.Nodup.filterMap (fun id id' row hid hid' => ?_)
    ((List.nodup_range').map (sprintf04d_injective _))
  rw [← (h id row hid).1, ← (h id' row hid').1]

/-- Every order of the rows is one in which they may be ranged over. -/
lemma Numbered.visits_of_perm (h : s.Numbered) {visited : List Notification}
    (hperm : visited.Perm s.rows) : s.Visits visited := by
  have hentries : ∀ row ∈ visited, s.entries row.id = some row :=
    fun row hrow => h.entries_of_mem (hperm.subset hrow)
  refine ⟨visited.map (·.id),?_,fun id => ⟨fun hid => ?_,fun hid => ?_⟩,?_⟩
  · refine List.Nodup.map_on (fun a ha b hb hid => ?_) (hperm.nodup_iff.mpr h.nodup)
    have := hentries a ha
    rw [hid, hentries b hb] at this
    exact (Option.some.inj this).symm
  · obtain ⟨row,hrow,rfl⟩ := List.mem_map.mp hid
    rw [hentries row hrow]
    rfl
  · obtain ⟨row,hrow⟩ := Option.isSome_iff_exists.mp hid
    obtain ⟨hkey,n,hpos,hle,hn⟩ := h id row hrow
    have hmem : row ∈ s.rows := List.mem_filterMap.mpr
      ⟨id,hn ▸ List.mem_map_of_mem (List.mem_range'_1.mpr ⟨hpos,by omega⟩),hrow⟩
    exact List.mem_map.mpr ⟨row,hperm.symm.subset hmem,hkey⟩
  · rw [List.filterMap_map]
    exact ((List.filterMap_congr hentries).trans List.filterMap_some).symm

lemma Numbered.overwrite (h : s.Numbered) {id : String} (found : s.entries id = some row)
    {new : Notification} (hnew : new.id = row.id) :
    Numbered ⟨s.seq,Function.update s.entries id (some new)⟩ := by
  intro k e he
  simp only [Function.update_apply] at he
  split_ifs at he with hk
  · cases he
    obtain ⟨hid,hnumber⟩ := h id row found
    exact ⟨by rw [hk, hnew, hid],hk ▸ hnumber⟩
  · exact h k e he

/-- A row overwritten in the map is overwritten in the list. -/
lemma Numbered.rows_overwrite (h : s.Numbered) {id : String} (found : s.entries id = some row)
    {new : Notification} : rows ⟨s.seq,Function.update s.entries id (some new)⟩ =
      s.rows.map fun e => if e.id = id then new else e := by
  unfold rows
  rw [List.map_filterMap]
  refine List.filterMap_congr fun k _ => ?_
  simp only [Function.update_apply]
  split_ifs with hk
  · rw [hk, found, Option.map_some, if_pos (h id row found).1]
  · cases hentry : s.entries k with
    | none => rfl
    | some e => rw [Option.map_some, if_neg ((h k e hentry).1 ▸ hk)]

/-- In whatever order the rows are visited, the listing is the same: exactly if all instants in it
are different. -/
theorem Numbered.listed_iff (h : s.Numbered)
    (hsorted : s.rows.Pairwise fun a b => a.createdAt ≤ b.createdAt) (recipientUserID : String)
    (onlyUnread : Bool) (listed : List Notification)
    (hlisted : listed = s.rows.filter fun entry =>
      entry.recipientUserID = recipientUserID ∧ ¬ (onlyUnread = true ∧ entry.readAt ≠ none)) :
    (∀ visited, s.Visits visited →
      listByRecipientUserID visited recipientUserID onlyUnread = listed) ↔
      (listed.map (·.createdAt)).Nodup := by
  subst hlisted
  rw [← sortByKey_forall_perm_iff (h.nodup.filter _) (hsorted.filter _)]
  constructor
  · intro hall l' hperm
    -- the other rows are visited last
    let p : Notification → Bool := fun entry =>
      entry.recipientUserID = recipientUserID ∧ ¬ (onlyUnread = true ∧ entry.readAt ≠ none)
    have hall' := hall (l' ++ s.rows.filter fun row => !p row) (h.visits_of_perm
      ((hperm.append_right _).trans (List.filter_append_perm p s.rows)))
    have hfirst : (l' ++ s.rows.filter fun row => !p row).filter p = l' := by
      rw [List.filter_append, List.filter_eq_self.mpr fun row hrow =>
        (List.mem_filter.mp (hperm.subset hrow)).2, List.filter_filter]
      simp
    rw [listByRecipientUserID] at hall'
    change sortByKey _ ((l' ++ s.rows.filter fun row => !p row).filter p) = _ at hall'
    rwa [hfirst] at hall'
  · intro hall visited hvisited
    exact hall _ ((hvisited.perm h.visits).filter _)

end MemoryStore

inductive Call
  | notify (recipientUserID workItemID kind message : String)
  | list (recipientUserID : String) (onlyUnread : Bool)
  | markAsRead (id recipientUserID : String)

/-- The program of a call, its result dropped. -/
def Call.program (ctx : Context) : Call → M Unit
  | .notify recipientUserID workItemID kind message =>
    Notifications.notify ctx recipientUserID workItemID kind message
  | .list recipientUserID onlyUnread => do let _ ← Notifications.list ctx recipientUserID onlyUnread
  | .markAsRead id recipientUserID => do let _ ← Notifications.markAsRead ctx id recipientUserID

/-- A call, the clock it read, and whether it succeeded. -/
structure Exchange where
  call : Call
  ctx : Context
  now : Time
  result : Except Error Unit

/-- One call served, as a labelled step; a listing may range over the map in any order. -/
def Serves (s : MemoryStore) (x : Exchange) (t : MemoryStore) : Prop :=
  (x.call.program x.ctx).Runs (Answers x.now) s x.result t

/-- The notification a call raises, as it is handed to the store. -/
def Exchange.raises (x : Exchange) : Option Notification :=
  match x.call, x.result with
  | .notify recipientUserID workItemID kind message, .ok _ =>
    some (newNotification recipientUserID workItemID kind message x.now)
  | _, _ => none

/-- The notification a call marks as read, for the first time or again. -/
def Exchange.marks (x : Exchange) : Option String :=
  match x.call, x.result with
  | .markAsRead id _, .ok _ => some id
  | _, _ => none

/-- The notifications raised, in this order. -/
def raised (xs : List Exchange) : List Notification :=
  (xs.filterMap Exchange.raises).mapIdx fun i n => { n with id := notificationID (i+1) }

/-- When a notification was first marked as read. -/
def firstRead (xs : List Exchange) (id : String) : Option Time :=
  (xs.find? fun x => x.marks = some id).map (·.now)

/-- The notifications raised, as they are by now. -/
def journal (xs : List Exchange) : List Notification :=
  (raised xs).map fun n => { n with readAt := firstRead xs n.id }

/-- What a listing should answer, by the history alone: the notifications raised for this recipient,
or those of them that were never marked as read. Nothing is raised for a blank recipient, and the
service refuses to list it. -/
def inbox (xs : List Exchange) (recipientUserID : String) (onlyUnread : Bool) :
    Except Error (List Notification) :=
  if Blank recipientUserID then .error errInvalidInput
  else .ok ((journal xs).filter fun n =>
    n.recipientUserID = recipientUserID ∧ (onlyUnread = true → n.readAt = none))

section Effect
variable {s t : MemoryStore} {x : Exchange}

/-- How a call ends. -/
inductive Effect (s : MemoryStore) (x : Exchange) : MemoryStore → Prop
  | same (raises : x.raises = none) (marks : x.marks = none) : Effect s x s
  | raised {n : Notification} (raises : x.raises = some n) (marks : x.marks = none)
      (recipient : ¬ Blank n.recipientUserID) : Effect s x (s.create n).2
  | marked {id : String} {row : Notification} (raises : x.raises = none)
      (marks : x.marks = some id) (found : s.entries id = some row) :
      Effect s x ⟨s.seq,Function.update s.entries id
        (some { row with readAt := row.readAt.or (some x.now) })⟩

lemma Effect.numbered (h : Effect s x t) (hs : s.Numbered) : t.Numbered := by
  cases h with
  | same => exact hs
  | raised => exact hs.create _
  | marked _ _ found => exact hs.overwrite found rfl

lemma wp_notify (ctx : Context) (now : Time) (recipientUserID workItemID kind message : String) :
    (notify ctx recipientUserID workItemID kind message).Wp (Answers now) s fun result t =>
      Effect s ⟨.notify recipientUserID workItemID kind message,ctx,now,result⟩ t := by
  unfold notify
  rw [wp_failIf_bind]
  refine ⟨fun _ => .same rfl rfl,fun hguard => ?_⟩
  rw [call_bind, wp_call]
  rintro _ _ ⟨⟩
  rw [ret_bind, call_bind, wp_call]
  rintro _ _ ⟨⟩
  exact (wp_ret _).mpr (.raised rfl rfl (not_blank_trimSpace fun h => hguard (.inl h)))

lemma wp_list (ctx : Context) (now : Time) (recipientUserID : String) (onlyUnread : Bool) :
    ((Call.list recipientUserID onlyUnread).program ctx).Wp (Answers now) s fun result t =>
      Effect s ⟨.list recipientUserID onlyUnread,ctx,now,result⟩ t := by
  have hlist : (list ctx recipientUserID onlyUnread).Wp (Answers now) s fun _ t => t = s := by
    unfold list
    rw [wp_failIf_bind]
    refine ⟨fun _ => rfl,fun _ => ?_⟩
    rw [wp_call]
    rintro r t ⟨rfl,_⟩
    exact (wp_fromResult r).mpr rfl
  refine hlist.andThen (fun _ t ht => ?_) fun _ t ht => ?_
  · exact (wp_ret _).mpr (ht ▸ .same rfl rfl)
  · exact ht ▸ .same rfl rfl

lemma wp_markAsRead (ctx : Context) (now : Time) (id recipientUserID : String) (hs : s.Numbered) :
    ((Call.markAsRead id recipientUserID).program ctx).Wp (Answers now) s fun result t =>
      Effect s ⟨.markAsRead id recipientUserID,ctx,now,result⟩ t := by
  simp only [Call.program, markAsRead, Program.bind_assoc]
  rw [wp_failIf_bind]
  refine ⟨fun _ => .same rfl rfl,fun _ => ?_⟩
  rw [call_bind, wp_call]
  rintro _ _ ⟨⟩
  cases found : s.entries id with
  | none =>
    rw [MemoryStore.getByID, found]
    exact (wp_fail _).mpr (.same rfl rfl)
  | some row =>
  rw [MemoryStore.getByID, found, fromResult_ok, ret_bind, wp_failIf_bind]
  refine ⟨fun _ => .same rfl rfl,fun _ => ?_⟩
  obtain ⟨hid,-⟩ := hs id row found
  cases hread : row.readAt with
  | some at_ =>
    have hsame : (⟨s.seq,Function.update s.entries id
        (some { row with readAt := row.readAt.or (some now) })⟩ : MemoryStore) = s := by
      have hrow : { row with readAt := row.readAt.or (some now) } = row := by
        simp only [hread, Option.some_or]
        rw [← hread]
      rw [hrow, ← found, Function.update_eq_self]
    have := Effect.marked (s := s) (x := ⟨.markAsRead id recipientUserID,ctx,now,.ok ()⟩) rfl rfl found
    rw [hsame] at this
    exact (wp_ret _).mpr this
  | none =>
    simp only
    rw [call_bind, call_bind, wp_call]
    rintro _ _ ⟨⟩
    rw [ret_bind, call_bind, wp_call]
    intro r t hanswer
    have hupdate : s.update { row with readAt := some now } = (.ok { row with readAt := some now },
        ⟨s.seq,Function.update s.entries id (some { row with readAt := some now })⟩) := by
      rw [MemoryStore.update, hid, found]
      rfl
    obtain ⟨rfl,rfl⟩ := Prod.mk.inj (hupdate.symm.trans hanswer)
    have := Effect.marked (s := s) (x := ⟨.markAsRead id recipientUserID,ctx,now,.ok ()⟩) rfl rfl found
    rw [hread] at this
    exact (wp_ret _).mpr this

lemma Serves.effect (hs : s.Numbered) (h : Serves s x t) : Effect s x t := by
  obtain ⟨call,ctx,now,result⟩ := x
  cases call with
  | notify => exact h.wp (wp_notify ctx now _ _ _ _)
  | list => exact h.wp (wp_list ctx now _ _)
  | markAsRead => exact h.wp (wp_markAsRead ctx now _ _ hs)

end Effect

section History
variable {xs : List Exchange} {x : Exchange} {s t : MemoryStore}

lemma raised_concat (xs : List Exchange) (x : Exchange) :
    raised (xs ++ [x]) = raised xs ++
      (x.raises.map fun n => { n with id := notificationID ((raised xs).length+1) }).toList := by
  unfold raised
  rw [List.filterMap_append, List.filterMap_cons, List.filterMap_nil]
  cases x.raises with
  | none => simp
  | some n => simp

lemma firstRead_concat (xs : List Exchange) (x : Exchange) (id : String) :
    firstRead (xs ++ [x]) id =
      (firstRead xs id).or (if x.marks = some id then some x.now else none) := by
  unfold firstRead
  rw [List.find?_append]
  cases xs.find? fun x => x.marks = some id with
  | none => by_cases hx : x.marks = some id <;> simp [hx]
  | some y => rfl

variable (xs) in
lemma raised_of_none (h : x.raises = none) : raised (xs ++ [x]) = raised xs := by
  rw [raised_concat, h, Option.map_none, Option.toList_none, List.append_nil]

variable (xs) in
lemma firstRead_of_none (h : x.marks = none) : firstRead (xs ++ [x]) = firstRead xs := by
  funext id
  rw [firstRead_concat, h, if_neg (by simp), Option.or_none]

/-- What a call raises is unread, and raised at the instant of the call. -/
lemma raises_eq {n : Notification} (h : x.raises = some n) : n.readAt = none ∧ n.createdAt = x.now := by
  unfold Exchange.raises at h
  split at h
  · cases h
    exact ⟨rfl,rfl⟩
  · cases h

/-- The store holds what the history tells, and no other notification has been read. -/
structure Told (xs : List Exchange) (s : MemoryStore) : Prop where
  numbered : s.Numbered
  count : (raised xs).length = s.seq
  rows : s.rows = journal xs
  read : ∀ id, firstRead xs id ≠ none → (s.entries id).isSome
  recipients : ∀ n ∈ raised xs, ¬ Blank n.recipientUserID

/-- The step lemma. -/
lemma Told.step (h : Told xs s) (hx : Serves s x t) : Told (xs ++ [x]) t := by
  cases hx.effect h.numbered with
  | same hraises hmarks =>
    have hread := firstRead_of_none xs hmarks
    have hraised := raised_of_none xs hraises
    refine ⟨h.numbered,hraised ▸ h.count,?_,hread ▸ h.read,hraised ▸ h.recipients⟩
    rw [h.rows, journal, journal, hread, hraised]
  | @raised n hraises hmarks hrecipient =>
    have hread := firstRead_of_none xs hmarks
    have hfresh : firstRead xs (notificationID (s.seq+1)) = none := by
      by_contra hknown
      obtain ⟨row,hrow⟩ := Option.isSome_iff_exists.mp (h.read _ hknown)
      obtain ⟨-,k,_,hle,hk⟩ := h.numbered _ row hrow
      have := sprintf04d_injective _ hk
      omega
    have hraised : raised (xs ++ [x]) = raised xs ++ [{ n with id := notificationID (s.seq+1) }] := by
      rw [raised_concat, hraises, h.count]
      rfl
    refine ⟨h.numbered.create n,?_,?_,?_,?_⟩
    · rw [hraised, List.length_append, h.count]
      rfl
    · rw [MemoryStore.rows_create, h.rows, journal, journal, hread, hraised, List.map_append]
      simp [hfresh, (raises_eq hraises).1]
    · rw [hread]
      intro id hid
      rw [MemoryStore.entries_create, Function.update_apply]
      split_ifs
      · rfl
      · exact h.read id hid
    · rw [hraised]
      intro m hm
      obtain hm | hm := List.mem_append.mp hm
      · exact h.recipients m hm
      · rwa [List.mem_singleton.mp hm]
  | @marked id row hraises hmarks found =>
    have hraised := raised_of_none xs hraises
    refine ⟨h.numbered.overwrite found rfl,hraised ▸ h.count,?_,fun k hk => ?_,
      hraised ▸ h.recipients⟩
    · rw [h.numbered.rows_overwrite found, h.rows, journal, journal, hraised, List.map_map]
      refine List.map_congr_left fun n hn => ?_
      have hrow : { n with readAt := firstRead xs n.id } ∈ s.rows := by
        rw [h.rows]
        exact List.mem_map_of_mem hn
      have hstored := h.numbered.entries_of_mem hrow
      rw [Function.comp_apply, firstRead_concat, hmarks]
      by_cases hid : n.id = id
      · -- the row that was found is the one of the journal
        rw [hid, found] at hstored
        rw [if_pos hid, Option.some.inj hstored, hid, if_pos rfl]
      · rw [if_neg hid, if_neg fun h => hid (Option.some.inj h).symm, Option.or_none]
    · simp only [Function.update_apply]
      split_ifs with hkid
      · rfl
      · refine h.read k ?_
        rwa [firstRead_concat, hmarks, if_neg fun h => hkid (Option.some.inj h).symm,
          Option.or_none] at hk

/-- The run lemma. -/
lemma trace_told (h : Trace Serves .new xs t) : Told xs t :=
  h.inv ⟨MemoryStore.new_numbered,rfl,rfl,fun _ h => (h rfl).elim,by simp [raised]⟩ fun _ _ _ _ hs hx => hs.step hx

/-- A clock that does not go back raises notifications in the order of their instants. -/
lemma journal_sorted (hclock : xs.Pairwise fun x y => x.now ≤ y.now) :
    (journal xs).Pairwise fun a b => a.createdAt ≤ b.createdAt := by
  have hinstants : (journal xs).map (·.createdAt) = (xs.filterMap Exchange.raises).map (·.createdAt) := by
    rw [journal, List.map_map, raised]
    exact List.ext_getElem (by simp) fun i _ _ => by simp
  have hsorted : ((journal xs).map (·.createdAt)).Pairwise (· ≤ ·) := by
    rw [hinstants, List.pairwise_map, List.pairwise_filterMap]
    refine hclock.imp fun hle a ha b hb => ?_
    rw [(raises_eq ha).2, (raises_eq hb).2]
    exact hle
  exact List.pairwise_map.mp hsorted

/-- What `List` may answer. -/
lemma runs_list {ctx : Context} {now : Time} {recipientUserID : String} {onlyUnread : Bool}
    {result : Except Error (List Notification)} :
    (list ctx recipientUserID onlyUnread).Runs (Answers now) s result t ↔ t = s ∧
      ((Blank recipientUserID ∧ result = .error errInvalidInput) ∨
      (¬ Blank recipientUserID ∧ ∃ visited, s.Visits visited ∧
        result = .ok (MemoryStore.listByRecipientUserID visited recipientUserID onlyUnread))) := by
  unfold list
  rw [runs_failIf_bind]
  constructor
  · rintro (⟨hblank,rfl,rfl⟩ | ⟨hnamed,h⟩)
    · exact ⟨rfl,.inl ⟨hblank,rfl⟩⟩
    · cases h with
      | call hlist hret =>
        obtain ⟨rfl,visited,hvisits,rfl⟩ := hlist
        obtain ⟨rfl,rfl⟩ := runs_fromResult.mp hret
        exact ⟨rfl,.inr ⟨hnamed,visited,hvisits,rfl⟩⟩
  · rintro ⟨rfl,⟨hblank,rfl⟩ | ⟨hnamed,visited,hvisits,rfl⟩⟩
    · exact .inl ⟨hblank,rfl,rfl⟩
    · exact .inr ⟨hnamed,.call ⟨rfl,visited,hvisits,rfl⟩ (runs_fromResult.mpr ⟨rfl,rfl⟩)⟩

end History

/-- Calls served in order, each at an instant of its own. -/
def serveAll (s : MemoryStore) : List (Call × Time) → List Exchange × MemoryStore
  | [] => ([],s)
  | c :: rest =>
    let out := (c.1.program background).run (exec c.2) s
    let later := serveAll out.2 rest
    (⟨c.1,background,c.2,out.1⟩ :: later.1,later.2)

/-- The rows by number are an order `List` may visit them in, and stay numbered. -/
lemma answers_exec (now : Time) (op : Op) (s : MemoryStore) (hs : s.Numbered) :
    Answers now op s (exec now op s).1 (exec now op s).2 ∧ (exec now op s).2.Numbered := by
  cases op with
  | storeCreate ctx n => exact ⟨rfl,hs.create n⟩
  | storeUpdate ctx n =>
    refine ⟨rfl,?_⟩
    simp only [exec, MemoryStore.update]
    split_ifs with hfound
    · obtain ⟨row,hrow⟩ := Option.isSome_iff_exists.mp hfound
      exact hs.overwrite hrow (hs n.id row hrow).1.symm
    · exact hs
  | storeListByRecipientUserID ctx recipientUserID onlyUnread =>
    exact ⟨⟨rfl,_,hs.visits,rfl⟩,hs⟩
  | _ => exact ⟨rfl,hs⟩

lemma trace_serveAll {s : MemoryStore} (hs : s.Numbered) (calls : List (Call × Time)) :
    Trace Serves s (serveAll s calls).1 (serveAll s calls).2 := by
  induction calls generalizing s with
  | nil => exact .nil
  | cons c rest ih =>
    have hfirst : Serves s ⟨c.1,background,c.2,((c.1.program background).run (exec c.2) s).1⟩
        ((c.1.program background).run (exec c.2) s).2 := runs_run_of_inv (answers_exec c.2) _ hs
    have hnumbered := (hfirst.effect hs).numbered hs
    exact (Trace.one hfirst).append (ih hnumbered)

/-- Every answer of `List` is the one the history tells, exactly if no two notifications were raised
for the recipient at one instant. -/
theorem listed_as_raised_iff {xs : List Exchange} {t : MemoryStore} (h : Trace Serves .new xs t)
    (hclock : xs.Pairwise fun x y => x.now ≤ y.now) (recipientUserID : String) :
    (∀ ctx now onlyUnread x u, (list ctx recipientUserID onlyUnread).Runs (Answers now) t x u ↔
      x = inbox xs recipientUserID onlyUnread ∧ u = t) ↔
      (((raised xs).filter fun n => n.recipientUserID = recipientUserID).map (·.createdAt)).Nodup := by
  have htold := trace_told h
  by_cases hblank : Blank recipientUserID
  · refine iff_of_true (fun ctx now onlyUnread x u => ?_) ?_
    · rw [runs_list, inbox, if_pos hblank, and_comm]
      simp [hblank]
    · rw [List.filter_eq_nil_iff.mpr fun n hn => ?_]
      · exact List.nodup_nil
      · simp only [decide_eq_true_eq]
        rintro rfl
        exact htold.recipients n hn hblank
  let listed (onlyUnread : Bool) : List Notification := (journal xs).filter fun n =>
    n.recipientUserID = recipientUserID ∧ (onlyUnread = true → n.readAt = none)
  have hlisted (onlyUnread : Bool) := htold.numbered.listed_iff (htold.rows ▸ journal_sorted hclock)
    recipientUserID onlyUnread (listed onlyUnread) (by
      rw [htold.rows]
      exact List.filter_congr fun n _ => by simp [imp_iff_not_or])
  have hinstants : (listed false).map (·.createdAt) =
      ((raised xs).filter fun n => n.recipientUserID = recipientUserID).map (·.createdAt) := by
    simp [listed, journal, List.filter_map, Function.comp_def]
  rw [← hinstants]
  constructor
  · intro hanswers
    refine (hlisted false).mp fun visited hvisits => ?_
    obtain ⟨hsame,-⟩ := (hanswers background 0 false _ t).mp
      (runs_list.mpr ⟨rfl,.inr ⟨hblank,visited,hvisits,rfl⟩⟩)
    rw [inbox, if_neg hblank] at hsame
    exact Except.ok.inj hsame
  · intro hdistinct ctx now onlyUnread x u
    have hsub : (listed onlyUnread).Sublist (listed false) :=
      List.monotone_filter_right _ fun n hn => by simp_all
    have hall := (hlisted onlyUnread).mpr ((hsub.map _).nodup hdistinct)
    rw [runs_list, inbox, if_neg hblank]
    constructor
    · rintro ⟨rfl,⟨h,_⟩ | ⟨_,visited,hvisits,rfl⟩⟩
      · exact (hblank h).elim
      · exact ⟨by rw [hall visited hvisits],rfl⟩
    · rintro ⟨rfl,rfl⟩
      have hvisits := htold.numbered.visits
      exact ⟨rfl,.inr ⟨hblank,_,hvisits,by rw [hall _ hvisits]⟩⟩

/-- Two notifications for Ada at different instants, the first of which she has read. -/
def sampleInbox : List (Call × Time) :=
  [(.notify " ada " "workitem-0001" "assignment_created" "WI-0001 was assigned to you",1),
    (.notify "ada" "workitem-0002" "work_verified" "WI-0002 was verified",2),
    (.markAsRead "notification-0001" "ada",3)]

theorem listed_as_raised_iff_unread :
    let out := serveAll .new sampleInbox
    (list background "ada" true).Runs (Answers 4) out.2 (.ok [⟨"notification-0002","ada",
      "workitem-0002","work_verified","WI-0002 was verified",none,2⟩]) out.2 := by
  intro out
  have hinbox : inbox out.1 "ada" true = .ok [⟨"notification-0002","ada","workitem-0002",
      "work_verified","WI-0002 was verified",none,2⟩] := by decide +kernel
  have h := (listed_as_raised_iff (trace_serveAll MemoryStore.new_numbered sampleInbox)
    (by decide +kernel) "ada").mpr (by decide +kernel)
  exact (h background 4 true _ _).mpr ⟨hinbox.symm,rfl⟩

/-- Two notifications for Ada at one instant. -/
def sampleTie : List (Call × Time) :=
  [(.notify "ada" "workitem-0001" "assignment_created" "WI-0001 was assigned to you",1),
    (.notify "ada" "workitem-0002" "assignment_created" "WI-0002 was assigned to you",1)]

/-- The one raised second may be listed first. -/
theorem listed_out_of_order :
    ¬ ∀ (xs : List Exchange) (t : MemoryStore), Trace Serves .new xs t →
      (xs.Pairwise fun x y => x.now ≤ y.now) → ∀ recipientUserID, ¬ Blank recipientUserID →
      ∀ ctx now onlyUnread x u, (list ctx recipientUserID onlyUnread).Runs (Answers now) t x u →
        x = inbox xs recipientUserID onlyUnread := by
  intro h
  let out := serveAll .new sampleTie
  have htrace := trace_serveAll MemoryStore.new_numbered sampleTie
  have hada : ¬ Blank "ada" := by decide +kernel
  let swapped : List Notification :=
    [⟨"notification-0002","ada","workitem-0002","assignment_created","WI-0002 was assigned to you",
      none,1⟩,
    ⟨"notification-0001","ada","workitem-0001","assignment_created","WI-0001 was assigned to you",
      none,1⟩]
  have hvisits : out.2.Visits swapped :=
    (trace_told htrace).numbered.visits_of_perm (by decide +kernel)
  have hlisted : MemoryStore.listByRecipientUserID swapped "ada" false = swapped :=
    sliceStable_of_pairwise (by decide +kernel)
  have hinbox := h _ _ htrace (by decide +kernel) "ada" hada background 2 false _ _
    (runs_list.mpr ⟨rfl,.inr ⟨hada,swapped,hvisits,rfl⟩⟩)
  rw [hlisted] at hinbox
  revert hinbox
  decide +kernel

end OpsPlatform.Notifications
