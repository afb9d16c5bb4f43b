import EInvoice.Text.Utf8

/-!
# The files a key store reads

Key material is read from named files. A `Files` value is a small directory tree given by its
files: each is a path of `/`-separated names with its bytes, and every proper prefix of a
file's path is a directory. Reading a path (empty names and `.` are skipped) gives the file's
bytes, or says that nothing is there, that the path is a directory, or that a proper prefix
of it is a file and not a directory. The empty path names nothing.
-/

namespace EInvoice.Keystore

open EInvoice.Text

/-- Files by path. -/
structure Files where
  entries : List (String × Bytes)
  deriving Repr

/-- Why a path cannot be read. -/
inductive ReadFault where
  | missing
  | directory
  | notDirectory
  deriving Repr, DecidableEq

/-- The names along a path. -/
def components (path : String) : List String :=
  (path.splitOn "/").filter fun c => c ≠ "" ∧ c ≠ "."

/-- The bytes of the file at a path. -/
def Files.read (fs : Files) (path : String) : Except ReadFault Bytes :=
  let cs := components path
  if path.isEmpty then .error .missing
  else if cs.isEmpty then .error .directory
  else match fs.entries.find? (fun e => components e.1 = cs) with
    | some (_, bytes) => if path.endsWith "/" then .error .notDirectory else .ok bytes
    | none =>
      if fs.entries.any (fun e => cs.isPrefixOf (components e.1)) then .error .directory
      else if fs.entries.any (fun e => (components e.1).isPrefixOf cs) then .error .notDirectory
      else .error .missing

theorem read_empty (fs : Files) : fs.read "" = .error .missing := rfl

end EInvoice.Keystore
