import DuplicateGuard.Json.Basic
import DuplicateGuard.Number.Scale
import DuplicateGuard.Rule

set_option autoImplicit false

namespace DuplicateGuard

structure RuleTemplate where
  id : String
  name : String
  description : String
  action : Action
  /-- The threshold in hundredths. -/
  hundredths : Nat
  checkFields : List CheckField
  fuzzyMatching : Bool
  timeWindowDays : Option Nat
  priority : Nat

def RuleTemplate.json (rule : RuleTemplate) : Json :=
  .obj ([
    ("id", .str rule.id),
    ("name", .str rule.name),
    ("description", .str rule.description),
    ("enabled", .bool true),
    ("action", .str rule.action.name),
    ("threshold", .float (Scale.ratio rule.hundredths 100)),
    ("checkFields", .strings (rule.checkFields.map CheckField.name)),
    ("fuzzyMatching", .bool rule.fuzzyMatching)] ++
    (match rule.timeWindowDays with
      | some days => [("timeWindowDays", Json.nat days)]
      | none => []) ++
    [("priority", Json.nat rule.priority)])

inductive Preset where
  | standard
  | strict
  | lenient
deriving DecidableEq

namespace Preset

def all : List Preset :=
  [.standard, .strict, .lenient]

def name : Preset → String
  | .standard => "default"
  | .strict => "strict"
  | .lenient => "lenient"

def ofName? (name : String) : Option Preset :=
  all.find? fun preset => preset.name = name

def standardRules : List RuleTemplate := [
  { id := "exact_match"
    name := "Exact Match Detection"
    description := "Detect exact matches on recipient email, name, title, and issuer"
    action := .block
    hundredths := 100
    checkFields := [.recipientEmail, .recipientName, .title, .issuerId]
    fuzzyMatching := false
    timeWindowDays := none
    priority := 100 },
  { id := "email_fuzzy"
    name := "Email Fuzzy Match"
    description := "Detect similar email addresses with typos or variations"
    action := .warn
    hundredths := 85
    checkFields := [.recipientEmail, .title, .issuerId]
    fuzzyMatching := true
    timeWindowDays := some 30
    priority := 80 },
  { id := "name_fuzzy"
    name := "Name Fuzzy Match"
    description := "Detect similar recipient names with possible typos"
    action := .warn
    hundredths := 80
    checkFields := [.recipientName, .title, .issuerId]
    fuzzyMatching := true
    timeWindowDays := some 90
    priority := 70 },
  { id := "title_fuzzy"
    name := "Title Fuzzy Match"
    description := "Detect similar certificate titles"
    action := .warn
    hundredths := 75
    checkFields := [.recipientEmail, .title, .issuerId]
    fuzzyMatching := true
    timeWindowDays := some 60
    priority := 60 },
  { id := "same_recipient_different_issuer"
    name := "Same Recipient Different Issuer"
    description := "Detect when same recipient gets certificates from different issuers"
    action := .warn
    hundredths := 90
    checkFields := [.recipientEmail, .recipientName, .title]
    fuzzyMatching := true
    timeWindowDays := some 180
    priority := 50 },
  { id := "high_frequency_recipient"
    name := "High Frequency Recipient"
    description := "Detect recipients receiving many certificates in short time"
    action := .warn
    hundredths := 70
    checkFields := [.recipientEmail]
    fuzzyMatching := false
    timeWindowDays := some 7
    priority := 40 }]

/-- Strict rules all block, from 0.8 up; lenient ones all warn, already from 0.6 down. -/
def adjust : Preset → RuleTemplate → RuleTemplate
  | .standard, rule => rule
  | .strict, rule => { rule with action := .block, hundredths := max rule.hundredths 80 }
  | .lenient, rule => { rule with action := .warn, hundredths := min rule.hundredths 60 }

def defaultAction : Preset → Action
  | .standard => .warn
  | .strict => .block
  | .lenient => .allow

def allowOverride : Preset → Bool
  | .strict => false
  | .standard | .lenient => true

def fields (preset : Preset) : Keyed Json := [
  ("enabled", .bool true),
  ("defaultAction", .str preset.defaultAction.name),
  ("allowOverride", .bool preset.allowOverride),
  ("requireAdminApproval", .bool false),
  ("logDuplicates", .bool true),
  ("rules", .arr (standardRules.map fun rule => (preset.adjust rule).json))]

end Preset

end DuplicateGuard
