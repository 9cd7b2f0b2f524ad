/-
  The fragments of a generated file for constants, enums and structs, and the head of the file.
-/
import ThriftScala.Fragment.Tree

namespace ThriftScala.Scala.Fragments

/-- The head of a file: package and imports. -/
def header : Fragment :=
  ⟨"header",
   [.block "addComments" [.text "// Generated by thriftgen. Do not edit.\n"], .text "package ",
    .scalar "scalaNamespace", .text "\n",
    .text "\n",
    .text "import com.twitter.scrooge.\x7bThriftEnum, ThriftStruct, ThriftStructCodec\x7d\n",
    .text "import java.nio.ByteBuffer\n",
    .text "import org.apache.thrift.protocol._\n",
    .text "import scala.collection.mutable\n",
    .block "imports" [.text "import ", .scalar "namespace", .text "._\n"]]⟩

/-- The object that holds the constants, if there are any. -/
def consts : Fragment :=
  ⟨"consts",
   [.block "hasConstants"
      [.text "object Constants \x7b\n",
       .block "constants"
         [.text "  val ", .scalar "name", .text ": ", .scalar "type", .text " = ", .scalar "value",
          .text "\n"],
       .text "\x7d\n",
       .text "\n"]]⟩

/-- An enum: its members, the look-ups by number and by name, and the list of all. -/
def enum : Fragment :=
  ⟨"enum",
   [.text "object ", .scalar "enum_name", .text " \x7b\n",
    .block "values"
      [.text "  case object ", .scalar "name", .text " extends ", .scalar "enum_name", .text "(",
       .scalar "value", .text ", \"", .scalar "name", .text "\")\n"],
    .text "\n",
    .text "  /**\n",
    .text "   * Find the enum by its integer value, as defined in the Thrift IDL.\n",
    .text "   * @throws NoSuchElementException if the value is not found.\n",
    .text "   */\n",
    .text "  def apply(value: Int): ", .scalar "enum_name", .text " = \x7b\n",
    .text "    value match \x7b\n",
    .block "values"
      [.text "      case ", .scalar "value", .text " => ", .scalar "name", .text "\n"],
    .text "      case _ => throw new NoSuchElementException(String.valueOf(value))\n",
    .text "    \x7d\n",
    .text "  \x7d\n",
    .text "\n",
    .text "  def get(value: Int): scala.Option[", .scalar "enum_name", .text "] = \x7b\n",
    .text "    value match \x7b\n",
    .block "values"
      [.text "      case ", .scalar "value", .text " => scala.Some(", .scalar "name", .text ")\n"],
    .text "      case _ => scala.None\n",
    .text "    \x7d\n",
    .text "  \x7d\n",
    .text "\n",
    .text "  /**\n",
    .text "   * Find the enum by its name, ignoring case.\n",
    .text "   */\n",
    .text "  def valueOf(name: String): scala.Option[", .scalar "enum_name", .text "] = \x7b\n",
    .text "    name.toLowerCase match \x7b\n",
    .block "values"
      [.text "      case \"", .scalar "nameLowerCase", .text "\" => scala.Some(",
       .scalar "enum_name", .text ".", .scalar "name", .text ")\n"],
    .text "      case _ => scala.None\n",
    .text "    \x7d\n",
    .text "  \x7d\n",
    .text "\n",
    .text "  lazy val list: List[", .scalar "enum_name", .text "] = List[", .scalar "enum_name",
    .text "](\n",
    .block "values" [.text "    ", .scalar "name", .inverse "last" [.text ","], .text "\n"],
    .text "  )\n",
    .text "\x7d\n",
    .text "\n",
    .text "abstract class ", .scalar "enum_name",
    .text "(val value: Int, val name: String) extends ThriftEnum\n"]⟩

/-- All enums of a document, each with the fragment of an enum. -/
def enums : Fragment :=
  ⟨"enums",
   [.block "hasEnums" [.block "enums" [.splice "enum", .text "\n"]]]⟩

/-- A struct: its codec object and its case class. -/
def struct : Fragment :=
  ⟨"struct",
   [.text "object ", .scalar "structName", .text " extends ThriftStructCodec[",
    .scalar "structName", .text "] \x7b\n",
    .text "  val Struct = new TStruct(\"", .scalar "structName", .text "\")\n",
    .block "fields"
      [.text "  val ", .scalar "fieldConst", .text " = new TField(\"", .scalar "wireName",
       .text "\", TType.", .scalar "constType", .text ", ", .scalar "id", .text ")\n"],
    .text "\n",
    .text "  def encode(_item: ", .scalar "structName",
    .text ", _oproto: TProtocol): Unit = _item.write(_oproto)\n",
    .text "\n",
    .text "  def decode(_iprot: TProtocol): ", .scalar "structName", .text " = \x7b\n",
    .block "fields"
      [.text "    var ", .scalar "localName", .text ": ", .scalar "fieldType", .text " = ",
       .scalar "defaultReadValue", .text "\n",
       .text "    var ", .scalar "setFlag", .text " = false\n"],
    .text "    var _done = false\n",
    .text "    _iprot.readStructBegin()\n",
    .text "    while (!_done) \x7b\n",
    .text "      val _field = _iprot.readFieldBegin()\n",
    .text "      if (_field.`type` == TType.STOP) \x7b\n",
    .text "        _done = true\n",
    .text "      \x7d else \x7b\n",
    .text "        _field.id match \x7b\n",
    .block "fields"
      [.text "          case ", .scalar "id", .text " =>\n",
       .text "            if (_field.`type` == TType.", .scalar "constType", .text ") \x7b\n",
       .text "              ", .scalar "localName", .text " = ", .scalar "readValue", .text "\n",
       .text "              ", .scalar "setFlag", .text " = true\n",
       .text "            \x7d else \x7b\n",
       .text "              TProtocolUtil.skip(_iprot, _field.`type`)\n",
       .text "            \x7d\n"],
    .text "          case _ =>\n",
    .text "            TProtocolUtil.skip(_iprot, _field.`type`)\n",
    .text "        \x7d\n",
    .text "        _iprot.readFieldEnd()\n",
    .text "      \x7d\n",
    .text "    \x7d\n",
    .text "    _iprot.readStructEnd()\n",
    .block "fields"
      [.block "required"
         [.text "    if (!", .scalar "setFlag",
          .text ") throw new TProtocolException(\"Required field '", .scalar "wireName",
          .text "' was not found in serialized data for struct ", .scalar "structName",
          .text "\")\n"]],
    .text "    new ", .scalar "structName", .text "(", .scalar "constructorArgs", .text ")\n",
    .text "  \x7d\n",
    .text "\x7d\n",
    .text "\n",
    .text "case class ", .scalar "structName", .text "(", .scalar "fieldArgs", .text ") extends ",
    .scalar "parentType", .text " \x7b\n",
    .text "  import ", .scalar "structName", .text "._\n",
    .text "\n",
    .text "  override def write(_oprot: TProtocol): Unit = \x7b\n",
    .text "    validate()\n",
    .text "    _oprot.writeStructBegin(Struct)\n",
    .block "fields"
      [.text "    if (", .scalar "writeGuard", .text ") \x7b\n",
       .text "      val ", .scalar "itemName", .text " = ", .scalar "writeItem", .text "\n",
       .text "      _oprot.writeFieldBegin(", .scalar "fieldConst", .text ")\n",
       .text "      ", .scalar "writeValue", .text "\n",
       .text "      _oprot.writeFieldEnd()\n",
       .text "    \x7d\n"],
    .text "    _oprot.writeFieldStop()\n",
    .text "    _oprot.writeStructEnd()\n",
    .text "  \x7d\n",
    .text "\n",
    .text "  def validate(): Unit = \x7b\n",
    .block "fields"
      [.block "checkNotNull"
         [.text "    if (", .scalar "name",
          .text " == null) throw new TProtocolException(\"Required field '", .scalar "wireName",
          .text "' cannot be null\")\n"]],
    .text "  \x7d\n",
    .text "\x7d\n"]⟩

end ThriftScala.Scala.Fragments
