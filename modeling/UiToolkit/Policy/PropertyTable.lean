import UiToolkit.Policy.Property

/-!
# The bundled property table

The properties that style sheets for the UI library know, and those they lack although CSS has them.
-/

namespace UiToolkit

namespace PropertyTable

/-- The row holds its name letter by letter, as found when the table is read, so a lookup decodes no string. -/
def row (name : String) (native inherited : Bool) (animatable description : String) {letters : Text}
    (_ : name.toList = letters := by exact String.toList_ofList) : Text × Support :=
  (letters, ⟨native, inherited, some animatable, some description⟩)

def bundled : Entries Support :=
  [
    row "align-content" true false "Discrete"
      "Alignment of the whole area of children on the cross axis if they span over multiple lines.",
    row "align-items" true false "Discrete"
      "Alignment of children on the cross axis of this element.",
    row "align-self" true false "Discrete"
      "Similar to align-items, but only for this specific element.",
    row "all" true false "Discrete"
      "Allows resetting all properties with the initial keyword.",
    row "background-color" true false "Fully animatable"
      "Background color to paint in the element's box.",
    row "background-image" true false "Discrete"
      "Background image to paint in the element's box.",
    row "background-position" true false "Fully animatable"
      "Background image position value.",
    row "background-position-x" true false "Fully animatable"
      "Background image x position value.",
    row "background-position-y" true false "Fully animatable"
      "Background image y position value.",
    row "background-repeat" true false "Discrete"
      "Background image repeat value.",
    row "background-size" true false "Fully animatable"
      "Background image size value.",
    row "border-bottom-color" true false "Fully animatable"
      "Color of the element's bottom border.",
    row "border-bottom-left-radius" true false "Fully animatable"
      "The radius of the bottom-left corner when a rounded rectangle is drawn in the element's box.",
    row "border-bottom-right-radius" true false "Fully animatable"
      "The radius of the bottom-right corner when a rounded rectangle is drawn in the element's box.",
    row "border-bottom-width" true false "Fully animatable"
      "Space reserved for the bottom edge of the border during the layout phase.",
    row "border-color" true false "Fully animatable"
      "Shorthand for border-top-color, border-right-color, border-bottom-color, border-left-color.",
    row "border-left-color" true false "Fully animatable"
      "Color of the element's left border.",
    row "border-left-width" true false "Fully animatable"
      "Space reserved for the left edge of the border during the layout phase.",
    row "border-radius" true false "Fully animatable"
      "Shorthand for the four corner radius properties.",
    row "border-right-color" true false "Fully animatable"
      "Color of the element's right border.",
    row "border-right-width" true false "Fully animatable"
      "Space reserved for the right edge of the border during the layout phase.",
    row "border-top-color" true false "Fully animatable"
      "Color of the element's top border.",
    row "border-top-left-radius" true false "Fully animatable"
      "The radius of the top-left corner when a rounded rectangle is drawn in the element's box.",
    row "border-top-right-radius" true false "Fully animatable"
      "The radius of the top-right corner when a rounded rectangle is drawn in the element's box.",
    row "border-top-width" true false "Fully animatable"
      "Space reserved for the top edge of the border during the layout phase.",
    row "border-width" true false "Fully animatable"
      "Shorthand for the four border width properties.",
    row "bottom" true false "Fully animatable"
      "Bottom distance from the element's box during layout.",
    row "color" true true "Fully animatable"
      "Color to use when drawing the text of an element.",
    row "cursor" true false "Non-animatable"
      "Mouse cursor to display when the mouse pointer is over an element.",
    row "flex" true false "Fully animatable"
      "Shorthand for flex-grow, flex-shrink, flex-basis.",
    row "flex-basis" true false "Fully animatable"
      "Initial main size of a flex item, on the main flex axis.",
    row "flex-direction" true false "Discrete"
      "Direction of the main axis to layout children in a container.",
    row "flex-grow" true false "Fully animatable"
      "Specifies how the item will grow relative to the rest of the flexible items inside the same container.",
    row "flex-shrink" true false "Fully animatable"
      "Specifies how the item will shrink relative to the rest of the flexible items inside the same container.",
    row "flex-wrap" true false "Discrete"
      "Placement of children over multiple lines if not enough space is available in this container.",
    row "font-size" true true "Fully animatable"
      "Font size to draw the element's text.",
    row "height" true false "Fully animatable"
      "Fixed height of an element for the layout.",
    row "justify-content" true false "Discrete"
      "Justification of children on the main axis of this container.",
    row "left" true false "Fully animatable"
      "Left distance from the element's box during layout.",
    row "letter-spacing" true true "Fully animatable"
      "Increases or decreases the space between characters.",
    row "margin" true false "Fully animatable"
      "Shorthand for margin-top, margin-right, margin-bottom, margin-left.",
    row "margin-bottom" true false "Fully animatable"
      "Space reserved for the bottom edge of the margin during the layout phase.",
    row "margin-left" true false "Fully animatable"
      "Space reserved for the left edge of the margin during the layout phase.",
    row "margin-right" true false "Fully animatable"
      "Space reserved for the right edge of the margin during the layout phase.",
    row "margin-top" true false "Fully animatable"
      "Space reserved for the top edge of the margin during the layout phase.",
    row "max-height" true false "Fully animatable"
      "Maximum height for an element, when it is flexible or measures its own size.",
    row "max-width" true false "Fully animatable"
      "Maximum width for an element, when it is flexible or measures its own size.",
    row "min-height" true false "Fully animatable"
      "Minimum height for an element, when it is flexible or measures its own size.",
    row "min-width" true false "Fully animatable"
      "Minimum width for an element, when it is flexible or measures its own size.",
    row "opacity" true false "Fully animatable"
      "Specifies the transparency of an element and of its children.",
    row "overflow" true false "Discrete"
      "How a container behaves if its content overflows its own box.",
    row "padding" true false "Fully animatable"
      "Shorthand for padding-top, padding-right, padding-bottom, padding-left.",
    row "padding-bottom" true false "Fully animatable"
      "Space reserved for the bottom edge of the padding during the layout phase.",
    row "padding-left" true false "Fully animatable"
      "Space reserved for the left edge of the padding during the layout phase.",
    row "padding-right" true false "Fully animatable"
      "Space reserved for the right edge of the padding during the layout phase.",
    row "padding-top" true false "Fully animatable"
      "Space reserved for the top edge of the padding during the layout phase.",
    row "position" true false "Discrete"
      "Element's positioning in its parent container.",
    row "right" true false "Fully animatable"
      "Right distance from the element's box during layout.",
    row "rotate" true false "Fully animatable"
      "A rotation transformation.",
    row "scale" true false "Fully animatable"
      "A scaling transformation.",
    row "text-overflow" true false "Discrete"
      "The element's text overflow mode.",
    row "text-shadow" true true "Fully animatable"
      "Drop shadow of the text.",
    row "top" true false "Fully animatable"
      "Top distance from the element's box during layout.",
    row "transform-origin" true false "Fully animatable"
      "The transformation origin is the point around which a transformation is applied.",
    row "transition" true false "Non-animatable"
      "Shorthand for transition-delay, transition-duration, transition-property, transition-timing-function.",
    row "transition-delay" true false "Non-animatable"
      "Duration to wait before starting a property's transition effect when its value changes.",
    row "transition-duration" true false "Non-animatable"
      "Time a transition animation should take to complete.",
    row "transition-property" true false "Non-animatable"
      "Properties to which a transition effect should be applied.",
    row "transition-timing-function" true false "Non-animatable"
      "Determines how intermediate values are calculated for properties modified by a transition effect.",
    row "translate" true false "Fully animatable"
      "A translate transformation.",
    row "visibility" true true "Discrete"
      "Specifies whether or not an element is visible.",
    row "white-space" true true "Discrete"
      "Word wrap over multiple lines if not enough space is available to draw the text of an element.",
    row "width" true false "Fully animatable"
      "Fixed width of an element for the layout.",
    row "word-spacing" true true "Fully animatable"
      "Increases or decreases the space between words.",
    row "-unity-background-image-tint-color" true false "Fully animatable"
      "Tinting color for the element's background image.",
    row "-unity-background-scale-mode" true false "Discrete"
      "Background image scaling in the element's box.",
    row "-unity-font" true true "Discrete"
      "Font to draw the element's text, defined as a Font object.",
    row "-unity-font-definition" true true "Discrete"
      "Font to draw the element's text, defined as a FontDefinition structure.",
    row "-unity-font-style" true true "Discrete"
      "Font style and weight (normal, bold, italic) to draw the element's text.",
    row "-unity-overflow-clip-box" true false "Discrete"
      "Specifies which box the element content is clipped against.",
    row "-unity-paragraph-spacing" true true "Fully animatable"
      "Increases or decreases the space between paragraphs.",
    row "-unity-slice-bottom" true false "Fully animatable"
      "Size of the 9-slice's bottom edge when painting an element's background image.",
    row "-unity-slice-left" true false "Fully animatable"
      "Size of the 9-slice's left edge when painting an element's background image.",
    row "-unity-slice-right" true false "Fully animatable"
      "Size of the 9-slice's right edge when painting an element's background image.",
    row "-unity-slice-scale" true false "Fully animatable"
      "Scale applied to an element's slices.",
    row "-unity-slice-top" true false "Fully animatable"
      "Size of the 9-slice's top edge when painting an element's background image.",
    row "-unity-slice-type" true false "Discrete"
      "Specifies the type of slicing.",
    row "-unity-text-align" true true "Discrete"
      "Horizontal and vertical text alignment in the element's box.",
    row "-unity-text-generator" true true "Discrete"
      "Switches between the standard and advanced text generator.",
    row "-unity-text-outline" true false "Fully animatable"
      "Outline width and color of the text.",
    row "-unity-text-outline-color" true true "Fully animatable"
      "Outline color of the text.",
    row "-unity-text-outline-width" true true "Fully animatable"
      "Outline width of the text.",
    row "-unity-text-overflow-position" true false "Discrete"
      "The element's text overflow position.",
    row "display" false false "Discrete"
      "Only flex and none exist in USS; values are translated through fallback synthesis.",
    row "text-align" false true "Discrete"
      "Use -unity-text-align instead.",
    row "box-shadow" false false "Non-animatable"
      "No box shadows in USS; approximated with text-shadow.",
    row "font-weight" false true "Discrete"
      "Use -unity-font-style instead.",
    row "font-style" false true "Discrete"
      "Use -unity-font-style instead.",
    row "flex-flow" false false "Discrete"
      "Use flex-direction and flex-wrap instead.",
    row "inset" false false "Fully animatable"
      "Use top, right, bottom and left instead.",
    row "gap" false false "Non-animatable"
      "Not supported; use margins on children.",
    row "row-gap" false false "Non-animatable"
      "Not supported; use margins on children.",
    row "column-gap" false false "Non-animatable"
      "Not supported; use margins on children.",
    row "line-height" false true "Non-animatable"
      "Not supported.",
    row "text-decoration" false false "Non-animatable"
      "Not supported.",
    row "text-transform" false true "Non-animatable"
      "Not supported; use the uppercase conversion option for labels.",
    row "z-index" false false "Non-animatable"
      "Not supported; hierarchy order decides drawing order.",
    row "outline" false false "Non-animatable"
      "Not supported.",
    row "box-sizing" false false "Non-animatable"
      "Not supported; USS always uses border-box sizing.",
    row "transform" false false "Non-animatable"
      "Use rotate, scale and translate instead.",
    row "filter" false false "Non-animatable"
      "Not supported.",
    row "vertical-align" false false "Non-animatable"
      "Use -unity-text-align instead.",
    row "border" false false "Non-animatable"
      "Shorthand not supported; use border-width and border-color.",
    row "border-style" false false "Non-animatable"
      "Not supported; borders are always solid.",
    row "pointer-events" false false "Non-animatable"
      "Use the picking-mode attribute in UXML instead.",
    row "user-select" false false "Non-animatable"
      "Not supported.",
    row "overflow-x" false false "Non-animatable"
      "Use overflow instead.",
    row "overflow-y" false false "Non-animatable"
      "Use overflow instead.",
    row "animation" false false "Non-animatable"
      "Not supported; use transitions.",
    row "object-fit" false false "Non-animatable"
      "Use -unity-background-scale-mode instead."
  ]

end PropertyTable

end UiToolkit
