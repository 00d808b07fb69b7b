import Newsstand.Config.Basic
import Newsstand.Toml.Value

/-!
# Decoding a configuration

A section is a list of fields, each of which knows its key and what a value does to the section. A
value under the key of no field does nothing. A section may also be written as a list, which gives
the fields in their order. The whole configuration is a section whose fields are the three sections.

The first value that does not fit makes decoding fail. The fault lies where the value stands, or at
its key if the value has no place of its own.
-/

namespace Newsstand

open Toml (Key Value)

/-- A result, or the place of the value that does not fit, if it has one. -/
abbrev Decoded (α : Type) := Except (Option Nat) α

/-- A result whose fault has a place, the given one if it has no other. -/
def Decoded.orAt {α : Type} (place? : Option Nat) (d : Decoded α) : Decoded α :=
  d.mapError (·.or place?)

/-- The text that a value is. -/
def decodeText : Value → Decoded String
  | .string _ text => .ok text
  | value => .error value.start?

/-- The number below `limit` that a value is. -/
def decodeNumber (limit : Nat) : Value → Decoded Nat
  | .integer start (.ofNat n) => if n < limit then .ok n else .error (some start)
  | value => .error value.start?

/-- The backend that a value names: a text, or a table with the name as its only key and nothing
under it. -/
def decodeBackend : Value → Decoded Backend
  | .string start name =>
    match Backend.ofName? name with
    | some backend => .ok backend
    | none => .error (some start)
  | .table start? [(key, content)] =>
    match Backend.ofName? key.text with
    | none => .error (some key.start)
    | some backend =>
      match content with
      | .table _ [] => .ok backend
      | .array _ [] => .ok backend
      | content => .error (content.start?.or start?)
  | value => .error value.start?

/-- A key of a section and what the value under it does to the section. -/
structure Field (σ : Type) where
  name : String
  put : σ → Value → Decoded σ

/-- The field whose value is decoded and then set. -/
def Field.of {σ α : Type} (name : String) (decode : Value → Decoded α) (set : σ → α → σ) :
    Field σ :=
  ⟨name, fun s value => do return set s (← decode value)⟩

/-- Reads a section. A date counts as a section without entries. -/
def decodeSection {σ : Type} (fields : List (Field σ)) (initial : σ) : Value → Decoded σ
  | .table _ entries =>
    entries.foldlM (fun s (key, value) =>
      match fields.find? (·.name == key.text) with
      | some field => Decoded.orAt (some key.start) (field.put s value)
      | none => pure s) initial
  | .array _ items =>
    (fields.zip items).foldlM (fun s (field, value) => field.put s value) initial
  | .date _ => .ok initial
  | value => .error value.start?

/-- The fields of the section on the store. -/
def StoreConfig.fields : List (Field StoreConfig) := [
  .of "backend" decodeBackend fun s backend => { s with backend },
  .of "database" decodeText fun s database => { s with database },
  .of "table" decodeText fun s table => { s with table },
  .of "max_connections" (decodeNumber UInt32.size) fun s maxConnections =>
    { s with maxConnections }]

/-- The fields of the section on fetching. -/
def FetchConfig.fields : List (Field FetchConfig) := [
  .of "group" decodeText fun s group => { s with group },
  .of "timeout_ms" (decodeNumber UInt64.size) fun s timeoutMs => { s with timeoutMs },
  .of "worker_pool_size" (decodeNumber UInt64.size) fun s workerPoolSize =>
    { s with workerPoolSize },
  .of "queue_depth" (decodeNumber UInt64.size) fun s queueDepth => { s with queueDepth },
  .of "max_body_bytes" (decodeNumber UInt64.size) fun s maxBodyBytes => { s with maxBodyBytes },
  .of "user_agent" decodeText fun s userAgent => { s with userAgent }]

/-- The fields of the section on the circuit breaker. -/
def BreakerConfig.fields : List (Field BreakerConfig) := [
  .of "error_threshold_percent" (decodeNumber UInt8.size) fun s errorThresholdPercent =>
    { s with errorThresholdPercent },
  .of "request_volume_threshold" (decodeNumber UInt64.size) fun s requestVolumeThreshold =>
    { s with requestVolumeThreshold },
  .of "rolling_window_ms" (decodeNumber UInt64.size) fun s rollingWindowMs =>
    { s with rollingWindowMs },
  .of "window_buckets" (decodeNumber UInt64.size) fun s windowBuckets => { s with windowBuckets },
  .of "sleep_window_ms" (decodeNumber UInt64.size) fun s sleepWindowMs =>
    { s with sleepWindowMs }]

/-- The three sections. -/
def Config.fields : List (Field Config) := [
  .of "store" (decodeSection StoreConfig.fields {}) fun c store => { c with store },
  .of "fetch" (decodeSection FetchConfig.fields {}) fun c fetch => { c with fetch },
  .of "breaker" (decodeSection BreakerConfig.fields {}) fun c breaker => { c with breaker }]

/-- The configuration that the entries of a text make. -/
def Config.decode (entries : List (Key × Value)) : Decoded Config :=
  decodeSection Config.fields {} (.table (some 0) entries)

end Newsstand
