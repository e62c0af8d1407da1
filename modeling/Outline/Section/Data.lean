import Outline.Node.Data
import Outline.Section

namespace Outline.Section

mutual

def data : Section → Value
  | ⟨title, depth, position?, content, children⟩ =>
    .map [("title", .text title), ("depth", .int depth), ("position", Position.data? position?),
          ("content", .list (content.map Content.data)), ("children", .list (dataList children))]

def dataList : List Section → List Value
  | []      => []
  | s :: ss => s.data :: dataList ss

end

end Outline.Section
