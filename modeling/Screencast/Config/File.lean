import Screencast.Config.Settings
import Screencast.Toml.Document
import Screencast.Toml.Printer

/-!
Settings in files. A file is TOML; one that is missing or has any fault stands for the default
settings as a whole.
-/

namespace Screencast

instance : Recorded Settings := ⟨(Settings.form "").write⟩

namespace Settings

def ofToml? (tempDir text : String) : Option Settings :=
  (Toml.document? text).bind ((form tempDir).read? .toml)

/-- The settings in a file with this content, if there is one. -/
def load (tempDir : String) (content : Option String) : Settings :=
  (content.bind (ofToml? tempDir)).getD (ofTempDir tempDir)

/-- The content of a file with the default settings. -/
def defaultFile (tempDir : String) : String := Toml.print (record (ofTempDir tempDir))

end Settings

end Screencast
