import BatchTree.Config.Basic

/-!
# Settings

A configuration is put together from the settings of a document.  How documents are written is
left open: a reader, which may be any function, takes a text apart into keys and their settings.
-/

namespace BatchTree.Config

/-- The value of a setting. -/
inductive Setting where
  | integer (value : Int)
  | text (value : String)
  deriving DecidableEq, Repr

namespace Setting

/-- The setting of a size.  Negative integers are none. -/
def size? : Setting → Option Nat
  | integer value => if 0 ≤ value then some value.toNat else none
  | text _ => none

def text? : Setting → Option String
  | text value => some value
  | integer _ => none

end Setting

/-- Put one setting in place. -/
def put (config : Config) (key : String) (setting : Setting) : Option Config :=
  if key = "max_data_len" then
    setting.size?.map fun value => { config with maxDataLength := value }
  else if key = "max_batch_ops" then
    setting.size?.map fun value => { config with maxBatchSize := value }
  else if key = "queue_depth" then
    setting.size?.map fun value => { config with queueDepth := value }
  else if key = "worker_name" then
    setting.text?.map fun value => { config with workerName := value }
  else
    none

/-- The configuration that a list of entries describes, every key at most once.
What is not set keeps its default. -/
def assemble (entries : List (String × Setting)) : Option Config :=
  if (entries.map Prod.fst).Nodup then
    entries.foldlM (fun config entry => config.put entry.1 entry.2) {}
  else
    none

section Reader

variable (read : String → Option (List (String × Setting)))

/-- Read and validate a text. -/
def ofText (text : String) : Except Fault Config :=
  match (read text).bind assemble with
  | some config => config.validate
  | none => .error .malformed

/-- Read and validate the contents of a file, if there is one. -/
def ofContents? (contents : Option ByteArray) : Except Fault Config :=
  match contents.bind String.fromUTF8? with
  | some text => ofText read text
  | none => .error .unreadable

variable {read} {config : Config}

/-- Whatever is read, a session can be opened with it. -/
theorem usable_of_ofText {text : String} (success : ofText read text = .ok config) :
    config.Usable := by
  rw [ofText] at success
  split at success
  · obtain ⟨rfl, usable⟩ := usable_of_validate success
    exact usable
  · cases success

theorem usable_of_ofContents? {contents : Option ByteArray}
    (success : ofContents? read contents = .ok config) : config.Usable := by
  rw [ofContents?] at success
  split at success
  · exact usable_of_ofText success
  · cases success

/-- A document without entries leaves every default, and with these a session can be opened. -/
theorem ofText_of_empty {text : String} (empty : read text = some []) :
    ofText read text = .ok {} := by
  rw [ofText, empty]
  rfl

end Reader

end BatchTree.Config
