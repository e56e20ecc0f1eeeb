import Stencil.Markdown.Outline
import Stencil.Markdown.Paragraph
import Stencil.Text.Hex

/-!
# Written HTML

The markup that a text stands for. Blocks start on a line of their own.
-/

namespace Stencil.Markdown

/-- A character of a text. -/
def escapeTextChar : Char → List Char
  | '&' => "&amp;".toList
  | '<' => "&lt;".toList
  | '>' => "&gt;".toList
  | c => [c]

/-- A character of an attribute. -/
def escapeAttributeChar : Char → List Char
  | '"' => "&quot;".toList
  | '\'' => "&#39;".toList
  | c => escapeTextChar c

/-- Whether a character stands for itself in an address. -/
def isAddressChar (c : Char) : Bool := c.isAlphanum || "!#$%()*+,-./:;=?@_~".toList.contains c

/-- A character of an address: the bytes of all but the usual characters are written as numbers. -/
def escapeAddressChar (c : Char) : List Char :=
  if isAddressChar c then [c]
  else if c = '&' then "&amp;".toList
  else if c = '\'' then "&#x27;".toList
  else
    (String.singleton c).toUTF8.toList.flatMap fun b =>
      '%' :: (Text.hexByte b).map Char.toUpper

/-- A text. -/
def textHtml (cs : List Char) : String := String.ofList (cs.flatMap escapeTextChar)

/-- An attribute's value. -/
def attributeHtml (cs : List Char) : String := String.ofList (cs.flatMap escapeAttributeChar)

/-- An address. -/
def addressHtml (cs : List Char) : String := String.ofList (cs.flatMap escapeAddressChar)

namespace Inline

mutual

/-- The text of inline content without its markup, for an attribute. -/
def plain : Inline → String
  | text content => attributeHtml content
  | code content => attributeHtml content
  | html markup => attributeHtml markup
  | softBreak => " "
  | hardBreak => " "
  | emphasis content => plains content
  | strong content => plains content
  | deleted content => plains content
  | link _ content => plains content
  | image _ content => plains content

/-- `plain` of pieces in a row. -/
def plains : List Inline → String
  | [] => ""
  | p :: ps => p.plain ++ plains ps

end

/-- The attribute for a title, if there is one. -/
def titleHtml (title : List Char) : String :=
  if title.isEmpty then "" else " title=\"" ++ attributeHtml title ++ "\""

mutual

/-- The markup of inline content. -/
def toHtml : Inline → String
  | text content => textHtml content
  | code content => "<code>" ++ textHtml content ++ "</code>"
  | html markup => String.ofList markup
  | softBreak => "\n"
  | hardBreak => "<br />\n"
  | emphasis content => "<em>" ++ toHtmls content ++ "</em>"
  | strong content => "<strong>" ++ toHtmls content ++ "</strong>"
  | deleted content => "<del>" ++ toHtmls content ++ "</del>"
  | link target content =>
    "<a href=\"" ++ addressHtml target.destination ++ "\"" ++ titleHtml target.title ++ ">"
      ++ toHtmls content ++ "</a>"
  | image target content =>
    "<img src=\"" ++ addressHtml target.destination ++ "\" alt=\"" ++ plains content ++ "\""
      ++ titleHtml target.title ++ " />"

/-- The markup of pieces in a row. -/
def toHtmls : List Inline → String
  | [] => ""
  | p :: ps => p.toHtml ++ toHtmls ps

end

end Inline

/-- The attribute of a cell in a column. -/
def Alignment.html : Alignment → String
  | unset => ""
  | left => " style=\"text-align: left\""
  | center => " style=\"text-align: center\""
  | right => " style=\"text-align: right\""

/-- The start tag of a list. -/
def ListMark.startTag : ListMark → String
  | bullet _ => "<ul>\n"
  | number start _ =>
    if start = 1 then "<ol>\n" else "<ol start=\"" ++ toString start ++ "\">\n"

/-- The end tag of a list. -/
def ListMark.endTag : ListMark → String
  | bullet _ => "</ul>\n"
  | number _ _ => "</ol>\n"

/-- The start tag of code. The first word of what its fence says names its language. -/
def codeTag (info : List Char) : String :=
  let language := info.takeWhile (· != ' ')
  if language.isEmpty then "<pre><code>"
  else "<pre><code class=\"language-" ++ attributeHtml language ++ "\">"

/-- Markup that is being written, and how many bytes the targets of labels may still take. -/
structure Sheet where
  written : String
  budget : Nat

namespace Sheet

/-- Writes markup. -/
def put (markup : String) (sheet : Sheet) : Sheet :=
  { sheet with written := sheet.written ++ markup }

/-- Goes to a new line. -/
def freshLine (sheet : Sheet) : Sheet :=
  if sheet.written.isEmpty || sheet.written.endsWith "\n" then sheet else sheet.put "\n"

/-- Writes the content of a passage. -/
def putPassage (s : Source) (refs : References) (p : Passage) (sheet : Sheet) : Sheet :=
  let (content, budget) := p.content s refs sheet.budget
  { (sheet.put (Inline.toHtmls content)) with budget := budget }

/-- Writes the cells of a row. -/
def putCells (inline : Passage → Sheet → Sheet) (tag : String) :
    List Alignment → List Passage → Sheet → Sheet
  | column :: columns, cell :: cells, sheet =>
    let opened := sheet.put ("<" ++ tag ++ column.html ++ ">")
    putCells inline tag columns cells ((inline cell opened).put ("</" ++ tag ++ ">"))
  | _, _, sheet => sheet

end Sheet

namespace Block

mutual

/-- Writes a block. The paragraphs of a tight list stand bare. -/
def write (inline : Passage → Sheet → Sheet) (tight : Bool) (sheet : Sheet) : Block → Sheet
  | paragraph content =>
    if tight then inline content sheet
    else (inline content (sheet.freshLine.put "<p>")).put "</p>\n"
  | heading level content =>
    let name := "h" ++ toString level
    (inline content (sheet.freshLine.put ("<" ++ name ++ ">"))).put ("</" ++ name ++ ">\n")
  | rule => sheet.freshLine.put "<hr />\n"
  | code info text => sheet.freshLine.put (codeTag info ++ textHtml text ++ "</code></pre>\n")
  | html markup => sheet.put (String.ofList markup)
  | quote content =>
    (writeAll inline false (sheet.freshLine.put "<blockquote>\n") content).put "</blockquote>\n"
  | list mark tight items =>
    (writeItems inline tight (sheet.freshLine.put mark.startTag) items).put mark.endTag
  | table columns head rows =>
    let sheet := (sheet.put "<table><thead><tr>").putCells inline "th" columns head
    let sheet := rows.foldl
      (fun sheet row => ((sheet.put "<tr>").putCells inline "td" columns row).put "</tr>\n")
      (sheet.put "</tr></thead><tbody>\n")
    sheet.put "</tbody></table>\n"

/-- Writes blocks. -/
def writeAll (inline : Passage → Sheet → Sheet) (tight : Bool) (sheet : Sheet) :
    List Block → Sheet
  | [] => sheet
  | b :: bs => writeAll inline tight (b.write inline tight sheet) bs

/-- Writes the items of a list. -/
def writeItems (inline : Passage → Sheet → Sheet) (tight : Bool) (sheet : Sheet) :
    List (List Block) → Sheet
  | [] => sheet
  | item :: items =>
    let sheet := writeAll inline tight (sheet.freshLine.put "<li>") item
    writeItems inline tight (sheet.put "</li>\n") items

end

end Block

/-- The markup that a text stands for. The targets of labels may take as many bytes as the text, and
a hundred thousand in any case. -/
def toHtml (s : String) : String :=
  let source := Source.ofString s
  let outline := source.outline
  let sheet : Sheet := ⟨"", max s.utf8ByteSize 100000⟩
  (Block.writeAll (Sheet.putPassage source outline.references) false sheet
    outline.blocks.reverse).written

end Stencil.Markdown
