import StateCoverage.Command.Run
import StateCoverage.Source.Parser
import StateCoverage.Yaml.Reading

/-!
# The readers of the command

Source files are decoded and parsed as modules, settings files are read as YAML.
-/

namespace StateCoverage

/-- The tree of a source file, whose literals can name these characters. -/
def parseBytes (names : Source.CharNames) (content : List UInt8) : Except SourceFault Module := do
  let cs ← (Text.decodeUtf8 content).mapError .undecodable
  match Source.parseModule? names cs with
  | some m => .ok m
  | none => .error .ungrammatical

/-- The readers of a run of the command.  They come without a table of names: a
literal that names a character is refused. -/
def Readers.standard : Readers := ⟨parseBytes fun _ => none, Yaml.readSettings⟩

end StateCoverage
