set_option autoImplicit false

namespace DuplicateGuard

inductive CheckField where
  | recipientEmail
  | recipientName
  | title
  | issuerId
deriving DecidableEq

def CheckField.all : List CheckField :=
  [.recipientEmail, .recipientName, .title, .issuerId]

def CheckField.name : CheckField → String
  | .recipientEmail => "recipientEmail"
  | .recipientName => "recipientName"
  | .title => "title"
  | .issuerId => "issuerId"

def CheckField.ofName? (name : String) : Option CheckField :=
  CheckField.all.find? fun field => field.name = name

@[simp] theorem CheckField.ofName?_name (field : CheckField) :
    CheckField.ofName? field.name = some field := by
  cases field <;> decide

structure FieldSet where
  recipientEmail : Bool
  recipientName : Bool
  title : Bool
  issuerId : Bool
deriving DecidableEq

namespace FieldSet

def has (fields : FieldSet) : CheckField → Bool
  | .recipientEmail => fields.recipientEmail
  | .recipientName => fields.recipientName
  | .title => fields.title
  | .issuerId => fields.issuerId

def ofList (fields : List CheckField) : FieldSet :=
  { recipientEmail := fields.contains .recipientEmail
    recipientName := fields.contains .recipientName
    title := fields.contains .title
    issuerId := fields.contains .issuerId }

def toList (fields : FieldSet) : List CheckField :=
  [CheckField.issuerId, .recipientEmail, .recipientName, .title].filter fields.has

@[simp] theorem has_ofList (fields : List CheckField) (field : CheckField) :
    (ofList fields).has field = fields.contains field := by
  cases field <;> rfl

@[simp] theorem mem_toList (fields : FieldSet) (field : CheckField) :
    field ∈ fields.toList ↔ fields.has field = true := by
  cases field <;> simp [toList]

@[simp] theorem ofList_toList (fields : FieldSet) : ofList fields.toList = fields := by
  obtain ⟨email, name, title, issuer⟩ := fields
  cases email <;> cases name <;> cases title <;> cases issuer <;> decide

end FieldSet

structure Particulars where
  issuerId : Option String := none
  recipientEmail : Option String := none
  recipientName : Option String := none
  title : Option String := none
deriving DecidableEq

def Particulars.value (record : Particulars) : CheckField → Option String
  | .recipientEmail => record.recipientEmail
  | .recipientName => record.recipientName
  | .title => record.title
  | .issuerId => record.issuerId

end DuplicateGuard
