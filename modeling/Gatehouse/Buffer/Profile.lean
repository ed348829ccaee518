namespace Gatehouse.Buffer

/-!
# Buffer sizing

The size of pooled buffers follows the memory budget.

| memory | size | per region | direct |
|---|---|---|---|
| below 64 MiB | 512 | 10 | no |
| below 128 MiB | 1024 | 10 | yes |
| otherwise | 4096 | 20 | yes |

* `Profile`, `Profile.ofMemory`.
-/

/-- Buffer size, buffers per region and kind of memory. -/
structure Profile where
  bufferSize : Nat
  perRegion : Nat
  direct : Bool
  deriving DecidableEq, Repr, Inhabited

/-- Bytes of a mebibyte. -/
def mebibyte : Nat := 1024 * 1024

/-- The profile for a budget in bytes. -/
def Profile.ofMemory (budget : Nat) : Profile :=
  if budget < 64 * mebibyte then ⟨512, 10, false⟩
  else if budget < 128 * mebibyte then ⟨1024, 10, true⟩
  else ⟨4096, 20, true⟩

end Gatehouse.Buffer
