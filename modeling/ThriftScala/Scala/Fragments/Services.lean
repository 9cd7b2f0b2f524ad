/-
  The fragments of a generated file for services: interfaces, client, service and server.
-/
import ThriftScala.Fragment.Tree

namespace ThriftScala.Scala.Fragments

/-- A service: its interfaces, the structs of its functions and its options. -/
def service : Fragment :=
  ⟨"service",
   [.text "object ", .scalar "serviceName", .text " \x7b\n",
    .text "  import com.twitter.util.Future\n",
    .text "\n",
    .text "  trait Iface",
    .block "hasParent" [.text " extends ", .scalar "parent", .text ".Iface"], .text " \x7b\n",
    .block "functions"
      [.text "    def ", .scalar "name", .text "(", .scalar "fieldArgs", .text "): ",
       .scalar "returnType", .text "\n"],
    .text "  \x7d\n",
    .text "\n",
    .text "  trait FutureIface",
    .block "hasParent" [.text " extends ", .scalar "parent", .text ".FutureIface"],
    .text " \x7b\n",
    .block "functions"
      [.text "    def ", .scalar "name", .text "(", .scalar "fieldArgs", .text "): Future[",
       .scalar "returnType", .text "]\n"],
    .text "  \x7d\n",
    .text "\n",
    .block "functions"
      [.block "argsStruct" [.splice "struct"], .text "\n",
       .block "resultStruct" [.splice "struct"], .text "\n"],
    .block "withFinagleClient" [.splice "finagleClient", .text "\n"],
    .block "withFinagleService" [.splice "finagleService", .text "\n"],
    .block "withOstrichServer" [.splice "ostrichServer"], .text "\x7d\n"]⟩

/-- A client of a service. -/
def finagleClient : Fragment :=
  ⟨"finagle_client",
   [.text "import com.twitter.finagle.thrift.ThriftClientRequest\n",
    .text "import org.apache.thrift.TApplicationException\n",
    .text "import org.apache.thrift.transport.\x7bTMemoryBuffer, TMemoryInputTransport\x7d\n",
    .text "\n",
    .text "class FinagledClient(\n",
    .text "  service: com.twitter.finagle.Service[ThriftClientRequest, Array[Byte]],\n",
    .text "  protocolFactory: TProtocolFactory = new TBinaryProtocol.Factory\n",
    .text ") extends FutureIface \x7b\n",
    .text "  private[this] def encodeRequest(name: String, args: ThriftStruct, oneway: Boolean): ThriftClientRequest = \x7b\n",
    .text "    val buf = new TMemoryBuffer(512)\n",
    .text "    val oprot = protocolFactory.getProtocol(buf)\n",
    .text "    oprot.writeMessageBegin(new TMessage(name, TMessageType.CALL, 0))\n",
    .text "    args.write(oprot)\n",
    .text "    oprot.writeMessageEnd()\n",
    .text "    val bytes = java.util.Arrays.copyOfRange(buf.getArray, 0, buf.length)\n",
    .text "    new ThriftClientRequest(bytes, oneway)\n",
    .text "  \x7d\n",
    .text "\n",
    .text "  private[this] def decodeResponse[T <: ThriftStruct](resBytes: Array[Byte], codec: ThriftStructCodec[T]): T = \x7b\n",
    .text "    val iprot = protocolFactory.getProtocol(new TMemoryInputTransport(resBytes))\n",
    .text "    val msg = iprot.readMessageBegin()\n",
    .text "    try \x7b\n",
    .text "      if (msg.`type` == TMessageType.EXCEPTION) \x7b\n",
    .text "        throw TApplicationException.read(iprot)\n",
    .text "      \x7d else \x7b\n",
    .text "        codec.decode(iprot)\n",
    .text "      \x7d\n",
    .text "    \x7d finally \x7b\n",
    .text "      iprot.readMessageEnd()\n",
    .text "    \x7d\n",
    .text "  \x7d\n",
    .text "\n",
    .text "  private[this] def missingResult(name: String) = \x7b\n",
    .text "    new TApplicationException(TApplicationException.MISSING_RESULT, name + \" failed: unknown result\")\n",
    .text "  \x7d\n",
    .block "functions"
      [.text "\n",
       .text "  def ", .scalar "name", .text "(", .scalar "fieldArgs", .text "): Future[",
       .scalar "returnType", .text "] = \x7b\n",
       .text "    this.service(this.encodeRequest(\"", .scalar "wireName", .text "\", ",
       .scalar "argsName", .text "(", .scalar "argNames", .text "), ", .scalar "oneway",
       .text ")) map \x7b response =>\n",
       .text "      this.decodeResponse(response, ", .scalar "resultName", .text ")\n",
       .text "    \x7d flatMap \x7b result =>\n",
       .text "      val exception: scala.Option[Throwable] = scala.None",
       .block "throws" [.text " orElse result.", .scalar "name"], .text "\n",
       .text "      exception.map(Future.exception).getOrElse(",
       .block "hasReturn"
         [.text "result.success.map(Future.value).getOrElse(Future.exception(this.missingResult(\"",
          .scalar "wireName", .text "\")))"],
       .inverse "hasReturn" [.text "Future.Done"], .text ")\n",
       .text "    \x7d\n",
       .text "  \x7d\n"],
    .text "\x7d\n"]⟩

/-- A service that answers requests by an implementation. -/
def finagleService : Fragment :=
  ⟨"finagle_service",
   [.text "import org.apache.thrift.TApplicationException\n",
    .text "import org.apache.thrift.transport.\x7bTMemoryBuffer, TMemoryInputTransport\x7d\n",
    .text "\n",
    .text "class FinagledService(\n",
    .text "  iface: FutureIface,\n",
    .text "  protocolFactory: TProtocolFactory\n",
    .text ") extends com.twitter.finagle.Service[Array[Byte], Array[Byte]] \x7b\n",
    .text "  private[this] val functionMap = new mutable.HashMap[String, (TProtocol, Int) => Future[Array[Byte]]]()\n",
    .text "\n",
    .text "  def apply(request: Array[Byte]): Future[Array[Byte]] = \x7b\n",
    .text "    val iprot = protocolFactory.getProtocol(new TMemoryInputTransport(request))\n",
    .text "    try \x7b\n",
    .text "      val msg = iprot.readMessageBegin()\n",
    .text "      functionMap.get(msg.name) match \x7b\n",
    .text "        case scala.Some(f) => f(iprot, msg.seqid)\n",
    .text "        case scala.None =>\n",
    .text "          TProtocolUtil.skip(iprot, TType.STRUCT)\n",
    .text "          iprot.readMessageEnd()\n",
    .text "          exception(msg.name, msg.seqid, TApplicationException.UNKNOWN_METHOD, \"Invalid method name: '\" + msg.name + \"'\")\n",
    .text "      \x7d\n",
    .text "    \x7d catch \x7b\n",
    .text "      case e: Exception => Future.exception(e)\n",
    .text "    \x7d\n",
    .text "  \x7d\n",
    .text "\n",
    .text "  private[this] def reply(name: String, seqid: Int, result: ThriftStruct): Future[Array[Byte]] = \x7b\n",
    .text "    val buf = new TMemoryBuffer(512)\n",
    .text "    val oprot = protocolFactory.getProtocol(buf)\n",
    .text "    oprot.writeMessageBegin(new TMessage(name, TMessageType.REPLY, seqid))\n",
    .text "    result.write(oprot)\n",
    .text "    oprot.writeMessageEnd()\n",
    .text "    Future.value(java.util.Arrays.copyOfRange(buf.getArray, 0, buf.length))\n",
    .text "  \x7d\n",
    .text "\n",
    .text "  private[this] def exception(name: String, seqid: Int, code: Int, message: String): Future[Array[Byte]] = \x7b\n",
    .text "    val x = new TApplicationException(code, message)\n",
    .text "    val buf = new TMemoryBuffer(512)\n",
    .text "    val oprot = protocolFactory.getProtocol(buf)\n",
    .text "    oprot.writeMessageBegin(new TMessage(name, TMessageType.EXCEPTION, seqid))\n",
    .text "    x.write(oprot)\n",
    .text "    oprot.writeMessageEnd()\n",
    .text "    Future.value(java.util.Arrays.copyOfRange(buf.getArray, 0, buf.length))\n",
    .text "  \x7d\n",
    .block "functions"
      [.text "\n",
       .text "  functionMap(\"", .scalar "wireName",
       .text "\") = \x7b (iprot: TProtocol, seqid: Int) =>\n",
       .text "    try \x7b\n",
       .text "      val args = ", .scalar "argsName", .text ".decode(iprot)\n",
       .text "      iprot.readMessageEnd()\n",
       .text "      (try \x7b\n",
       .text "        iface.", .scalar "name", .text "(", .scalar "argAccessors", .text ")\n",
       .text "      \x7d catch \x7b\n",
       .text "        case e: Exception => Future.exception(e)\n",
       .text "      \x7d) flatMap \x7b value: ", .scalar "returnType", .text " =>\n",
       .text "        reply(\"", .scalar "wireName", .text "\", seqid, ", .scalar "resultName",
       .text "(", .block "hasReturn" [.text "success = scala.Some(value)"], .text "))\n",
       .text "      \x7d rescue \x7b\n",
       .block "throws"
         [.text "        case e: ", .scalar "type", .text " => reply(\"", .scalar "wireName",
          .text "\", seqid, ", .scalar "resultName", .text "(", .scalar "name",
          .text " = scala.Some(e)))\n"],
       .text "        case e => Future.exception(e)\n",
       .text "      \x7d\n",
       .text "    \x7d catch \x7b\n",
       .text "      case e: TProtocolException =>\n",
       .text "        iprot.readMessageEnd()\n",
       .text "        exception(\"", .scalar "wireName",
       .text "\", seqid, TApplicationException.PROTOCOL_ERROR, e.getMessage)\n",
       .text "      case e: Exception => Future.exception(e)\n",
       .text "    \x7d\n",
       .text "  \x7d\n"],
    .text "\x7d\n"]⟩

/-- A server for a service. -/
def ostrichServer : Fragment :=
  ⟨"ostrich_server",
   [.text "import com.twitter.finagle.builder.\x7bServer, ServerBuilder\x7d\n",
    .text "import com.twitter.finagle.thrift.ThriftServerFramedCodec\n",
    .text "import com.twitter.logging.Logger\n",
    .text "\n",
    .text "trait ThriftServer extends com.twitter.ostrich.admin.Service with FutureIface \x7b\n",
    .text "  val log = Logger.get(getClass)\n",
    .text "  def thriftCodec = ThriftServerFramedCodec()\n",
    .text "  val thriftProtocolFactory: TProtocolFactory = new TBinaryProtocol.Factory()\n",
    .text "  val thriftPort: Int\n",
    .text "  val serverName: String\n",
    .text "\n",
    .text "  var server: Server = null\n",
    .text "\n",
    .text "  def start(): Unit = \x7b\n",
    .text "    val thriftImpl = new FinagledService(this, thriftProtocolFactory)\n",
    .text "    server = ServerBuilder()\n",
    .text "      .codec(thriftCodec)\n",
    .text "      .name(serverName)\n",
    .text "      .bindTo(new java.net.InetSocketAddress(thriftPort))\n",
    .text "      .build(thriftImpl)\n",
    .text "  \x7d\n",
    .text "\n",
    .text "  def shutdown(): Unit = synchronized \x7b\n",
    .text "    if (server != null) \x7b\n",
    .text "      server.close()\n",
    .text "    \x7d\n",
    .text "  \x7d\n",
    .text "\x7d\n"]⟩

end ThriftScala.Scala.Fragments
