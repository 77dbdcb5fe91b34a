import PulpGame.Script.Compilation

namespace PulpGame

structure Sections where
  declarations : String := ""
  tiles : String := ""
  rooms : String := ""
  sounds : String := ""
  scripts : List CompiledScript := []
  mimics : String := ""
  accessors : String := ""

namespace Program

def graphics (name : String) : Lua.Expr :=
  .field (.field (.name "playdate") "graphics") name

def images (sheet : String) : Lua.Expr :=
  .call (.field (graphics "imagetable") "new") [.string sheet]

def runtimeTable (doc : Document) : Lua.Expr :=
  let number (n : Int) : Lua.Expr := .numeral (toString n)
  .tableOf (.lines 2)
    [("playerid", number doc.player.id), ("startroom", number doc.player.room),
      ("startx", number doc.player.x), ("starty", number doc.player.y),
      ("gamename", .string doc.name), ("halfwidth", .boolean doc.font.isHalfWidth),
      ("pipe_img", images "pipe"), ("font_img", images "font"), ("tile_img", images "tiles")]

def round : Lua.Expr :=
  .lambda ["x"] (.call (.field (.name "math") "ceil") [.binary "+" (.name "x") (.numeral "0.5")])

def aliases : List Lua.Stat :=
  let const (name : String) (value : Lua.Expr) : Lua.Stat := .action (.declareConst name value)
  let math (name : String) : Lua.Expr := .field (.name "math") name
  [const "__pulp" (.name "___pulp"),
    .action (.call (.callString (.name "import") "pulp")),
    const "__sin" (math "sin"),
    const "__cos" (math "cos"),
    const "__tan" (math "tan"),
    const "__floor" (math "floor"),
    const "__ceil" (math "ceil"),
    const "__round" round,
    const "__random" (math "random"),
    const "__tau" (.binary "*" (math "pi") (.numeral "2")),
    const "__tostring" (.name "tostring"),
    const "__roomtiles" (runtimeField "roomtiles"),
    const "__print" (.name "print"),
    const "__fillrect" (graphics "fillRect"),
    const "__setcolour" (graphics "setColor"),
    const "__fillcolours"
      (.tableOf (.lines 4)
        [("black", graphics "kColorBlack"), ("white", graphics "kColorWhite")]),
    .action (.declare "__pix8scale" (runtimeField "pix8scale"))]

def preamble (doc : Document) : List Lua.Stat :=
  .action (.assign (.name "___pulp") (runtimeTable doc)) :: aliases

/-- A script under a headline; a name cannot end the comment it stands in. -/
def scriptText (s : CompiledScript) : String :=
  s!"\n----------------- {Lua.escape s.name} ----------------------------\n" ++ s.code

def epilogue : List Lua.Stat := [runtimeCall "load" [], runtimeCall "start" []]

def songs : List Lua.Stat := [.action (.assign (runtimeField "songs") (.tableOf .inline []))]

def text (doc : Document) (s : Sections) : String :=
  Lua.chunkText (preamble doc) ++ "\n" ++ s.declarations ++ s.tiles ++ s.rooms ++ s.sounds ++
    "\n" ++ Lua.chunkText songs ++ String.join (s.scripts.map scriptText) ++ s.mimics ++ "\n" ++
    s.accessors ++ "\n" ++ Lua.chunkText epilogue

end Program

end PulpGame
