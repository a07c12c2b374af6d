import OpsPlatform.Interaction.Program
import OpsPlatform.Go.Basic

/-! The attachments package: the metadata rows, their append-only store, and the service that
records an upload. The bytes go to a storage the package only knows by its answers. -/
namespace OpsPlatform.Attachments
open OpsPlatform.Go Interaction Program

def errInvalidInput : Error := ⟨"invalid attachment input"⟩
def errInvalidKind : Error := ⟨"invalid attachment kind"⟩
def errEmptyFile : Error := ⟨"uploaded file is empty"⟩

/-- A kind string: one of the five constants or any other text. -/
inductive Kind
  | supportingDocument
  | sitePhoto
  | evidencePhoto
  | quoteDocument
  | verificationDocument
  | other (text : String)
  deriving DecidableEq, Repr

/-- `Kind.IsValid`. -/
def Kind.isValid : Kind → Bool
  | .other _ => false
  | _ => true

structure Attachment where
  id : String
  workItemID : String
  uploadedByUserID : String
  storageURL : String
  mimeType : String
  fileSize : Int
  kind : Kind
  createdAt : Time
  deriving DecidableEq, Repr

structure UploadInput where
  kind : Kind
  mimeType : String
  deriving DecidableEq, Repr

structure MemoryStore where
  seq : ℕ
  entries : List Attachment

namespace MemoryStore

def new : MemoryStore := ⟨0,[]⟩

def create (s : MemoryStore) (attachment : Attachment) : Except Error Attachment × MemoryStore :=
  let row := { attachment with id := sprintf04d "attachment-" (s.seq+1) }
  (.ok row,⟨s.seq+1,s.entries ++ [row]⟩)

def listByWorkItemID (s : MemoryStore) (workItemID : String) : Except Error (List Attachment) :=
  .ok (sliceStable (fun a b => a.createdAt < b.createdAt)
    (s.entries.filter fun entry => entry.workItemID = workItemID))

/-- At least one attachment is recorded under the id. -/
def Has (s : MemoryStore) (workItemID : String) : Prop :=
  ∃ entry ∈ s.entries, entry.workItemID = workItemID

variable {s : MemoryStore} {workItemID : String}

/-- Attachments are never removed. -/
theorem Has.create (h : s.Has workItemID) (attachment : Attachment) :
    (s.create attachment).2.Has workItemID := by
  obtain ⟨entry,hentry,hid⟩ := h
  exact ⟨entry,List.mem_append_left _ hentry,hid⟩

/-- A listing is empty only where nothing was recorded. -/
theorem has_of_listByWorkItemID {rows : List Attachment}
    (hlist : s.listByWorkItemID workItemID = .ok rows) (hrows : rows ≠ []) : s.Has workItemID := by
  obtain ⟨entry,hentry⟩ := List.exists_mem_of_ne_nil rows hrows
  rw [← Except.ok.inj hlist, (sliceStable_perm _ _).mem_iff, List.mem_filter,
    decide_eq_true_iff] at hentry
  exact ⟨entry,hentry⟩

end MemoryStore

/-- The calls the service makes on its store, its storage and its clock. -/
inductive Op
  | storeCreate (ctx : Context) (attachment : Attachment)
  | storeListByWorkItemID (ctx : Context) (workItemID : String)
  | storageSave (ctx : Context) (filename : String) (content : List UInt8)
  | now

abbrev Op.Res : Op → Type
  | .storeCreate _ _ => Except Error Attachment
  | .storeListByWorkItemID _ _ => Except Error (List Attachment)
  | .storageSave _ _ _ => Except Error (String × Int)
  | .now => Time

abbrev M (α : Type) := Program Op.Res Error α

def upload (ctx : Context) (workItemID uploadedByUserID : String) (input : UploadInput)
    (content : List UInt8) (filename : String) : M Attachment := do
  failIf (trimSpace workItemID = "" ∨ trimSpace uploadedByUserID = "") errInvalidInput
  failIf (¬ input.kind.isValid) errInvalidKind
  let (storageURL,size) ← call (.storageSave ctx filename content) fromResult
  failIf (size = 0) errEmptyFile
  let now ← call .now ret
  call (.storeCreate ctx
    { id := "", workItemID, uploadedByUserID, storageURL, mimeType := input.mimeType,
      fileSize := size, kind := input.kind, createdAt := now }) fromResult

def list (ctx : Context) (workItemID : String) : M (List Attachment) := do
  failIf (trimSpace workItemID = "") errInvalidInput
  call (.storeListByWorkItemID ctx workItemID) fromResult

end OpsPlatform.Attachments
