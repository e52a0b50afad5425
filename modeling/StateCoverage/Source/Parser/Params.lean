import StateCoverage.Source.Parser.Basic

/-!
# Parameter lists

The items between the commas of a parameter list, and how they are put together:
parameters before a `/` are positional only, those after a `*` are keyword only,
a parameter with a default is followed by no positional parameter without one,
and `**` comes last.
-/

namespace StateCoverage.Source

open Parser

/-- One item of a parameter list. -/
inductive ParamItem where
  | plain (p : Param)
  | slash
  | bareStar
  | star (p : Param)
  | doubleStar (p : Param)

/-- The type of a parameter, which may be starred if that is allowed. -/
def declaredType (self : Rules) (starred : Bool) : Parser Expr := do
  let start ← here
  match ← peek with
  | .operator "*" =>
      if starred then
        discard next
        let inner ← self.bitwiseOr
        return .compound (← spanFrom start) .starred [inner]
      else reject
  | _ => self.expression

/-- A parameter without a default.  Only a `def` declares types, and only after
a `*` may the type be starred. -/
def param (self : Rules) (typed starred : Bool) : Parser Param := do
  let start ← here
  let id ← name
  let declared? ← if typed then perhaps (op ":" *> declaredType self starred) else pure none
  return ⟨← spanFrom start, id, declared?, none⟩

/-- One item of a parameter list. -/
def paramItem (self : Rules) (typed : Bool) : Parser ParamItem := do
  if ← acceptOp "/" then return .slash
  else if ← acceptOp "**" then return .doubleStar (← param self typed false)
  else if ← acceptOp "*" then
    match ← peek with
    | .name _ => return .star (← param self typed true)
    | _ => return .bareStar
  else
    let p ← param self typed false
    if ← acceptOp "=" then return .plain { p with default? := some (← self.expression) }
    else return .plain p

/-- How far a parameter list has come. -/
inductive ParamStage where
  | positional
  | afterSlash
  | afterBareStar
  | keywordOnly
  | finished
  deriving DecidableEq

/-- The parameter list that items make. -/
def assembleParams? : ParamStage → Params → List ParamItem → Option Params
  | .afterBareStar, _, [] => none
  | _, ps, [] => some ps
  | .finished, _, _ :: _ => none
  | stage, ps, item :: items =>
      match item with
      | .plain p =>
          if stage = .positional || stage = .afterSlash then
            let hasDefaults := (ps.posOnly ++ ps.plain).any fun q => q.default?.isSome
            if hasDefaults && p.default?.isNone then none
            else assembleParams? stage { ps with plain := ps.plain ++ [p] } items
          else assembleParams? .keywordOnly { ps with kwOnly := ps.kwOnly ++ [p] } items
      | .slash =>
          if stage = .positional && !ps.plain.isEmpty then
            assembleParams? .afterSlash { ps with posOnly := ps.plain, plain := [] } items
          else none
      | .bareStar =>
          if stage = .positional || stage = .afterSlash then assembleParams? .afterBareStar ps items
          else none
      | .star p =>
          if stage = .positional || stage = .afterSlash then
            assembleParams? .keywordOnly { ps with vararg? := some p } items
          else none
      | .doubleStar p =>
          if stage = .afterBareStar then none
          else assembleParams? .finished { ps with kwarg? := some p } items

/-- A parameter list, possibly empty. -/
def params (self : Rules) (typed : Bool) : Parser Params := do
  match ← perhaps (commaTerminated (paramItem self typed)) with
  | none => return .empty
  | some (items, _) =>
      match assembleParams? .positional .empty items with
      | some ps => return ps
      | none => reject

end StateCoverage.Source
