import Courier.Proofs.Stream.Checked

namespace Courier

/-- The calls on a reader as data. -/
inductive Reader.Call where
  | take (type : FieldType)
  | reserve (additional : Nat)
  | flush
deriving DecidableEq, Repr

open Reader (Call)

def Reader.perform (reader : Reader) : Call → Reader
  | .take type => attempt (take type) reader
  | .reserve _ => reader
  | .flush => reader.flush

def Reader.after (reader : Reader) (calls : List Call) : Reader :=
  calls.foldl perform reader

def Checked.perform (reader : Reader) : Call → Option Reader
  | .take type => (take type reader).map Prod.snd
  | .reserve _ => some reader
  | .flush => some reader.flush

def Checked.after (reader : Reader) (calls : List Call) : Option Reader :=
  calls.foldlM perform reader

theorem Reader.attempt_take_cases (type : FieldType) (reader : Reader) :
    attempt (take type) reader = reader ∨
      ∃ count ≤ reader.remaining, attempt (take type) reader = reader.advance count := by
  cases taken : take type reader with
  | ok value left =>
      refine .inr ⟨type.width value, width_le_of_take_eq_ok taken, ?_⟩
      rw [attempt, taken]
      exact (of_take_eq_ok taken).2
  | error error left =>
      refine .inl ?_
      rw [attempt, taken]
      exact eq_of_take_eq_error taken

theorem Reader.bytes_perform (reader : Reader) (call : Call) :
    (reader.perform call).bytes = if call = .flush then [] else reader.bytes := by
  cases call with
  | take type =>
      rw [perform, if_neg Call.noConfusion]
      obtain same | ⟨count, -, moved⟩ := attempt_take_cases type reader
      · rw [same]
      · rw [moved]
        rfl
  | reserve additional => rw [perform, if_neg Call.noConfusion]
  | flush => rw [if_pos rfl]; rfl

theorem Reader.Inside.perform {reader : Reader} (inside : reader.Inside) (call : Call) :
    (reader.perform call).Inside := by
  cases call with
  | take type =>
      rw [Reader.perform]
      obtain same | ⟨count, enough, moved⟩ := attempt_take_cases type reader
      · rwa [same]
      · rw [moved]
        exact inside.advance enough
  | reserve additional => exact inside
  | flush => exact .ofBytes (by decide)

theorem Checked.perform_eq {reader : Reader} (inside : reader.Inside) (call : Call) :
    perform reader call = some (reader.perform call) := by
  cases call with
  | take type =>
      rw [perform, take_eq inside, Reader.perform, attempt]
      cases Reader.take type reader with
      | ok value left => rfl
      | error error left => rfl
  | reserve additional => rfl
  | flush => rfl

theorem Reader.bytes_after (reader : Reader) (calls : List Call) :
    (reader.after calls).bytes = if .flush ∈ calls then [] else reader.bytes := by
  induction calls generalizing reader with
  | nil => rfl
  | cons call calls ih =>
      rw [after, List.foldl_cons, ← after, ih, bytes_perform]
      by_cases flushed : call = .flush
      · simp [flushed]
      · simp [flushed, Ne.symm flushed]

theorem Reader.Inside.after {reader : Reader} (inside : reader.Inside) (calls : List Call) :
    (reader.after calls).Inside := by
  induction calls generalizing reader with
  | nil => exact inside
  | cons call calls ih => exact ih (inside.perform call)

theorem Checked.after_eq {reader : Reader} (inside : reader.Inside) (calls : List Call) :
    after reader calls = some (reader.after calls) := by
  induction calls generalizing reader with
  | nil => rfl
  | cons call calls ih =>
      rw [after, List.foldlM_cons, perform_eq inside]
      exact ih (inside.perform call)

namespace Reader

/-- Whatever the bytes are and whatever has been called, no step has faulted, and the reader stands
inside its bytes, which are those it was given until they are flushed. Nor does the next read fault.
It moves over the bytes of its value or it leaves the reader as it is, and it is out of bounds
exactly if it asks for more than is left. -/
theorem reads_of_calls {bytes : Bytes} (fits : bytes.length < UInt64.size) (calls : List Call) :
    let reader := (ofBytes bytes).after calls
    Checked.after (.ofBytes bytes) calls = some reader ∧
      reader.position ≤ reader.length ∧
      reader.bytes = (if .flush ∈ calls then [] else bytes) ∧
      ∀ type,
        Checked.take type reader = some (Checked.outcome (take type reader)) ∧
          (∀ value after, take type reader = .ok value after →
            after = { reader with position := reader.position + type.width value }) ∧
          (∀ error after, take type reader = .error error after → after = reader) ∧
          ∀ position requested available,
            take type reader = .error (.outOfBounds position requested available) reader ↔
              reader.Demands type position requested available ∧ available < requested := by
  intro reader
  have start : (ofBytes bytes).Inside := .ofBytes fits
  have inside : reader.Inside := start.after calls
  refine ⟨Checked.after_eq start calls, inside.position_le, bytes_after _ calls, fun type => ?_⟩
  refine ⟨Checked.take_eq inside type, ?_, ?_, take_eq_outOfBounds_iff type reader⟩
  · intro value after taken
    exact (of_take_eq_ok taken).2
  · intro error after failed
    exact eq_of_take_eq_error failed

/-- A single byte, behind the longest length that eight bytes can tell. -/
def boasting : Bytes :=
  [0xff, 0xff, 0xff, 0xff, 0xff, 0xff, 0xff, 0xff, 0x61]

def tries : List Call :=
  [.take .text, .reserve 64, .take (.fixed (.array .bool 2))]

theorem reads_of_calls_boasting :
    boasting.length < UInt64.size ∧ Checked.after (.ofBytes boasting) tries = some ⟨boasting, 0⟩ ∧
      take .bytes ⟨boasting, 0⟩ = .error (.outOfBounds 8 (UInt64.size - 1) 1) ⟨boasting, 0⟩ := by
  have fits : boasting.length < UInt64.size := by decide
  have unmoved : (ofBytes boasting).after tries = ⟨boasting, 0⟩ := by decide +kernel
  have demand : Demands ⟨boasting, 0⟩ .bytes 8 (UInt64.size - 1) 1 := .body trivial (by decide)
  obtain ⟨ran, -, -, reads⟩ := reads_of_calls fits tries
  rw [unmoved] at ran reads
  exact ⟨fits, ran, ((reads .bytes).2.2.2 _ _ _).mpr ⟨demand, by decide⟩⟩

end Reader

end Courier
