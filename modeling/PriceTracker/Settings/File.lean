import PriceTracker.Settings.Basic
import PriceTracker.Toml.Parse

/-!
# Settings files

A settings file is a TOML document with the groups `crawler` and `user-agent`. Each group is a
table, or a list with the values in the order of the fields; what it leaves out has its default,
and keys that are no field mean nothing. `CrawlFile.parse?` refuses a file with a value of the wrong
kind or out of range.
-/

namespace PriceTracker

/-- What a settings file states. -/
structure CrawlFile where
  crawl : CrawlSettings := {}
  agent : AgentSettings := {}
  deriving DecidableEq, Repr, Inhabited

namespace CrawlFile

open Toml (Value)

/-- The fields of a group: the entries of a table, or the items of a list under the names in
order. A date states no field. -/
def fields? (names : List String) : Value → Option (List (String × Value))
  | .table entries => some entries
  | .array items => some (names.zip items)
  | .moment _ => some []
  | _ => none

/-- A text. -/
def text? : Value → Option String
  | .text s => some s
  | _ => none

/-- A whole number from zero up to below a bound. -/
def natural? (bound : Nat) : Value → Option Nat
  | .integer n => if 0 ≤ n ∧ n.toNat < bound then some n.toNat else none
  | _ => none

/-- The value of a field, read in its way, or the default of a field that is left out. -/
def field? {α : Type} (fields : List (String × Value)) (name : String) (read : Value → Option α)
    (default : α) : Option α :=
  match fields.lookup name with
  | none => some default
  | some value => read value

/-- The names of the fields of the crawl, in order. -/
def crawlFields : List String :=
  ["start-url", "batch-size", "request-delay-ms", "max-pages", "in-stock-label"]

/-- The names of the fields of the agent, in order. -/
def agentFields : List String :=
  ["crawler-name", "crawler-version", "contact-url"]

/-- The settings of the crawl that a value states. -/
def crawl? (value : Value) : Option CrawlSettings := do
  let fields ← fields? crawlFields value
  let standard : CrawlSettings := {}
  return {
    startUrl := ← field? fields "start-url" text? standard.startUrl
    batchSize := ← field? fields "batch-size" (natural? 0x10000000000000000) standard.batchSize
    requestDelay := ← field? fields "request-delay-ms" (natural? 0x10000000000000000) standard.requestDelay
    maxPages := ← field? fields "max-pages" (fun v => (natural? 0x100000000 v).map some) standard.maxPages
    inStockLabel := ← field? fields "in-stock-label" text? standard.inStockLabel }

/-- The settings of the agent that a value states. -/
def agent? (value : Value) : Option AgentSettings := do
  let fields ← fields? agentFields value
  let standard : AgentSettings := {}
  return {
    name := ← field? fields "crawler-name" text? standard.name
    version := ← field? fields "crawler-version" text? standard.version
    contactUrl := ← field? fields "contact-url" (fun v => (text? v).map some) standard.contactUrl }

/-- The settings that a document states. -/
def ofDocument? (document : List (String × Value)) : Option CrawlFile := do
  return {
    crawl := ← field? document "crawler" crawl? {}
    agent := ← field? document "user-agent" agent? {} }

/-- The settings that a text states. -/
def parse? (text : List Char) : Option CrawlFile :=
  (Toml.parse text).bind ofDocument?

end CrawlFile

end PriceTracker
