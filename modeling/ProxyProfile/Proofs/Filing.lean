/-
This file proves that a compiled document is read back from the file that it was
compiled into.

Compiling into a file is compiling, and then writing the indented text of the
document at a path. A file in memory is found again under every path that means the
same one, and no other file is touched. So what stands in the file is a text of the
document, and the document is read back from it, member by member in the order in
which they were written.
-/

import ProxyProfile.Proofs.Delivering
import ProxyProfile.Proofs.Ingestion

namespace ProxyProfile.Kernel

/-! ### Compiling into a file in memory -/

/-- A document is in a file, and no other file has changed: the file holds a text that is read
as the document, if the document can be read back from any text at all. -/
structure Filed (before after : Memory) (path : String) (document : Json.Value) : Prop where
  reread : ∃ text, Storage.readText after path = .ok text ∧
    (document.Storable → Json.parse? text = some document)
  others : ∀ key, key ≠ Storage.normalize path →
    after.files.lookup key = before.files.lookup key

theorem filed_put (memory : Memory) (path : String) (document : Json.Value) :
    Filed memory (memory.put path document.pretty.toUTF8) path document where
  reread := ⟨document.pretty, memory.readText_put path document.pretty,
    Json.parse?_pretty document⟩
  others _ differs := memory.lookup_put_of_ne _ differs

/-- What is compiled into a file is what is compiled, after the same calls, and it is in the
file. -/
theorem filed_compileFile {host : Host} {environment : Environment} {profile : Profile}
    {before after : Memory} {path : String} {history calls : List Script.Call}
    {document : Json.Value}
    (files : compileFile host environment before path profile history =
      ((.ok document, after), calls)) :
    (compile host environment profile).run.run history = (.ok document, calls) ∧
      Filed before after path document := by
  rw [run_compileFile] at files
  generalize (compile host environment profile).run.run history = both at files ⊢
  obtain ⟨_ | compiled, made⟩ := both
  · cases files
  · cases files
    exact ⟨rfl, filed_put before path compiled⟩

theorem filed_compileFile_careless : ∃ document after call,
    compileFile carelessHost { provider := twoProxies } ({} : Memory) "./out/kernel.json"
        carelessProfile [] = ((.ok document, after), [call]) ∧
      document.Storable ∧
      (compile carelessHost { provider := twoProxies } carelessProfile).run.run [] =
        (.ok document, [call]) ∧
      Filed {} after "./out/kernel.json" document :=
  ⟨_, _, _, rfl, ⟨by decide, by decide⟩, filed_compileFile rfl⟩

end ProxyProfile.Kernel
