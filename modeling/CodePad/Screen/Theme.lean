import CodePad.Token.Kind

/-!
Themes: the style of each kind of text.
-/

namespace CodePad

structure Theme where
  styleOf : TokenKind → Style

namespace Theme

def standard : Theme := ⟨TokenKind.defaultStyle⟩

def recolor (t : Theme) (kind : TokenKind) (color : Color) : Theme :=
  ⟨fun k => if k = kind then (t.styleOf k).withForeground color else t.styleOf k⟩

/-- The standard theme with some kinds recoloured, one after another. -/
def ofOverrides (overrides : List (TokenKind × Color)) : Theme :=
  overrides.foldl (fun t (kind, color) => t.recolor kind color) standard

/-- The style of a piece of text; text without highlighting is plain. -/
def style (t : Theme) : Option TokenKind → Style
  | none => .plain
  | some kind => t.styleOf kind

end Theme

end CodePad
