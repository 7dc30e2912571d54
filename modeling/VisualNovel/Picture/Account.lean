import VisualNovel.Picture.Surface
import VisualNovel.Text.Quoted

/-!
# Picture accounts

The text that a saved picture is kept as. It tells the ground of the picture and then, first to last,
everything that was drawn on it; a picture that was drawn stands in parentheses.
-/
namespace VisualNovel.Surface

open VisualNovel.Text

def extent (width height : Int) : String :=
  intText width ++ "x" ++ intText height

def account : Surface → String
  | image name w h => "image " ++ quoted name ++ " " ++ extent w h
  | canvas w h => "canvas " ++ extent w h
  | fill base color => base.account ++ "; fill " ++ color.text
  | blit base source x y =>
    base.account ++ "; blit " ++ intText x ++ " " ++ intText y ++ " (" ++ source.account ++ ")"
  | scaled source w h => "scaled " ++ extent w h ++ " (" ++ source.account ++ ")"
  | text line font pixels color _ _ =>
    "text " ++ quoted line ++ " " ++ color.text ++ " " ++ intText pixels ++
      (match font with | some path => " " ++ quoted path | none => "")

end VisualNovel.Surface
