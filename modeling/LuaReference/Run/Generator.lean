import LuaReference.Comment.Heading
import LuaReference.Coverage
import LuaReference.Entry.Reader
import LuaReference.Page.Placement
import LuaReference.Run.Log
import LuaReference.Site.Definition
import LuaReference.Site.HookUse

/-!
# From a source to its page

* `Generator` : the choices of a run;
* `Generator.sites` : what a source documents, by its mode;
* `Draft`, `Generator.draft` : the page of a source and what is known about it before it is written;
* `SourceError` : why a source comes to nothing;
* `Generator.process`, `Generator.processFile` : a source, given or read, and its page on the disk.
-/

namespace LuaReference

open Text

/-- The choices of a run. -/
structure Generator where
  mode : Mode
  /-- The style that was asked for. -/
  chosenStyle : Option Style
  links : Types.Links
  layout : Layout
  force : Bool

/-- Why a source comes to nothing. -/
inductive SourceError where
  | unreadable (path : Path) (cause : FileError)
  | badEncoding (path : Path)
  | unwritable (path : Path) (cause : FileError)
  deriving DecidableEq, Repr

/-- The wording of an error. -/
def SourceError.message : SourceError → Text
  | .unreadable path cause => List.flatten ["could not read ", path.text, ": ", cause.message]
  | .badEncoding path => List.flatten ["could not read ", path.text, " due to encoding issues"]
  | .unwritable path cause => List.flatten ["failed to write ", path.text, ": ", cause.message]

/-- The page of a source, and what is known about the source before the page is written. -/
structure Draft where
  mode : Mode
  declared : List Text
  documented : List Text
  hooksUsed : NameSet
  page : Option Page
  log : List LogLine

/-- The report on a draft, given what became of its page. -/
def Draft.report (d : Draft) (outcome : Option Outcome) : Report :=
  ⟨d.mode, d.declared, d.documented, d.hooksUsed, outcome⟩

/-- What came of one step of a run: a report or an error, the log, and the disk after it. -/
structure Step where
  result : Except SourceError Report
  log : List LogLine
  disk : Disk

/-- The text of the file at a path, without one byte order mark at its start. -/
def readSource (disk : Disk) (path : Path) : Except SourceError Text :=
  match disk.read path with
  | .error cause => .error (.unreadable path cause)
  | .ok content =>
    match decode? content with
    | none => .error (.badEncoding path)
    | some source => .ok (dropStart ['\ufeff'] source)

namespace Generator

/-- The style in which entries are written. -/
def style (g : Generator) : Style := g.chosenStyle.getD g.mode.defaultStyle

/-- The tables whose fields a definition file documents. -/
def definitionTables (path : Path) : List Text :=
  if Placement.isItem path then ["ITEM"]
  else if sameName path.stem "attributes" then ["ATTRIBUTE"]
  else ["CLASS", "FACTION", "MODULE"]

/-- What the names of a library start with. -/
def scopeFront (g : Generator) : Text := g.layout.scope ++ "."

/-- The name that readers see. -/
def display (g : Generator) (mode : Mode) (name : Text) : Text :=
  Style.displayName name mode.naming g.layout.scope

/-- The functions that a source declares, as readers see them. Only sources of a library or of
methods declare any. -/
def declared (g : Generator) (mode : Mode) (source : Text) (blocks : List Comment.Block) :
    List Text :=
  match mode with
  | .library | .compatibility =>
    ((Site.declarations source blocks).filter fun d => startsWith g.scopeFront d.name).map
      fun d => g.display mode d.name
  | .methods => (Site.declarations source blocks).map fun d => g.display mode d.name
  | .definitions | .hooks => []

/-- What a source documents. -/
def sites (g : Generator) (mode : Mode) (path : Path) (source : Text)
    (blocks : List Comment.Block) : List Site :=
  match mode with
  | .library | .compatibility => Site.locate source blocks (some g.scopeFront)
  | .methods | .hooks => Site.locate source blocks none
  | .definitions =>
    if Placement.isPanels path then Site.locatePanels source blocks
    else Site.locateProperties source blocks (definitionTables path)

/-- A site's name as readers see it, with its section of the page. -/
def section? (g : Generator) (mode : Mode) (site : Site) : Option (Text × Text) :=
  let name := g.display mode site.name
  (g.style.fragment? g.links name (Entry.parse site.doc.text)).map fun fragment => (name, fragment)

/-- Says that a site is left out because nothing tells its purpose. -/
def droppedLine? (g : Generator) (mode : Mode) (site : Site) : Option LogLine :=
  if (g.section? mode site).isSome then none
  else
    some
      { level := .debug
        message := "no purpose, dropped"
        fields := [("name", g.display mode site.name), ("line", (toString site.line).toList)] }

/-- The first two blocks of an item file that neither document anything nor direct the page: its
header and its overview. -/
def itemPreamble (blocks : List Comment.Block) : Option Comment.Block × Option Comment.Block :=
  let content := blocks.filter fun b => b.kind != .entry && !Comment.mentionsDirective b.text
  (content.head?, content.tail.head?)

/-- The blocks that give the title and the overview of a page. -/
def preambleBlocks (mode : Mode) (path : Path) (blocks : List Comment.Block) :
    Option Comment.Block × Option Comment.Block :=
  if mode = .definitions && Placement.isItem path then itemPreamble blocks
  else (Comment.header? blocks, Comment.overview? blocks)

/-- Title and subtitle of a page, from its header block or made up. -/
def heading (mode : Mode) (path : Path) (d : Directives) (header : Option Comment.Block) :
    Text × Text :=
  let title := Placement.defaultTitle path d
  (header.bind fun b => Comment.titleAndSubtitle? b.text).getD
    (title, Placement.defaultSubtitle mode path title)

/-- The overview of a page, unless it is empty. -/
def overview (block : Option Comment.Block) : Option Text :=
  (block.map fun b => Comment.overviewText b.text).filter fun t => !t.isEmpty

/-- The name of a mode in the log. -/
def modeName : Mode → Text
  | .library => "Library"
  | .methods => "Meta"
  | .compatibility => "Compatibility"
  | .definitions => "Definitions"
  | .hooks => "Hooks"

/-- The page of a source. -/
def draft (g : Generator) (path : Path) (source : Text) : Draft :=
  let blocks := Comment.extract source
  let d := Directives.ofBlocks blocks
  let mode := g.mode.resolve d
  let sites := g.sites mode path source blocks
  let sections := sites.filterMap (g.section? mode)
  let (header, intro) := preambleBlocks mode path blocks
  let (title, subtitle) := heading mode path d header
  { mode
    declared := g.declared mode source blocks
    documented := sections.map (·.1)
    hooksUsed := Site.hooksUsed source blocks
    page :=
      if sections.isEmpty && header.isNone && intro.isNone then none
      else
        some
          { title
            subtitle
            overview := overview intro
            sections := sections.map (·.2)
            path := Placement.outputPath mode path d g.layout
            append := d.append }
    log :=
      { level := .debug
        message := "scanned"
        fields :=
          [("path", path.text), ("blocks", (toString blocks.length).toList),
           ("mode", modeName mode)] } :: sites.filterMap (g.droppedLine? mode) }

/-- Says that a page is about to be added to, once its directory is there. -/
def appendingLines (page : Page) (disk : Disk) : List LogLine :=
  match page.append, (disk.makeParents page.path).1 with
  | true, .ok _ =>
    [{ level := .debug
       message := "appending page"
       fields :=
         [("path", page.path.text),
          ("fresh", if disk.isOccupied page.path then "false" else "true")] }]
  | _, _ => []

/-- Says what became of a page. -/
def outcomeLine (path : Path) : Outcome → LogLine
  | .written => { level := .info, message := "Generated ".toList ++ path.text }
  | .appended => { level := .info, message := "Appended to ".toList ++ path.text }
  | .skipped => { level := .info, message := path.text ++ " already exists, skipping" }

/-- Writes the page of a source. -/
def process (g : Generator) (path : Path) (source : Text) (disk : Disk) : Step :=
  let d := g.draft path source
  match d.page with
  | none =>
    ⟨.ok (d.report none),
     d.log ++ [{ level := .info, message := "No documentation found in ".toList ++ path.text }],
     disk⟩
  | some page =>
    let log := d.log ++ appendingLines page disk
    match page.write g.force disk with
    | (.ok outcome, done) =>
      ⟨.ok (d.report (some outcome)), log ++ [outcomeLine page.path outcome], done⟩
    | (.error cause, done) => ⟨.error (.unwritable page.path cause), log, done⟩

/-- Reads a source and writes its page. -/
def processFile (g : Generator) (path : Path) (disk : Disk) : Step :=
  match readSource disk path with
  | .error e => ⟨.error e, [], disk⟩
  | .ok source => g.process path source disk

end Generator

end LuaReference
