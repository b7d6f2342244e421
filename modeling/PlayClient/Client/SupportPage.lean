import PlayClient.Source.Literal
import PlayClient.Text.Split
import PlayClient.Value

/-!
The pages of the files that every generated client has.
-/

set_option autoImplicit false

namespace PlayClient

inductive SupportPage where
  | build
  | reference
  | apiFile
  | apiConfig
  | apiRequest
  | apiResponse
  | apiInvoker
  | apiImplicits
  deriving DecidableEq, Repr

structure SupportValues where
  invokerPackage : String
  configPath : String
  projectVersion : String
  projectName : String
  projectOrganization : String
  scalaVersion : String
  playVersion : String
  onlyOneSuccess : Bool
  deriving DecidableEq, Repr

-- A value by name: what is not there is printed as nothing and does not hold.
def SupportValues.ofNamed (named : List (String × Value)) : SupportValues :=
  let printed := fun name => ((named.lookup name).map Value.printed).getD ""
  { invokerPackage := printed "invokerPackage"
    configPath := printed "configPath"
    projectVersion := printed "projectVersion"
    projectName := printed "projectName"
    projectOrganization := printed "projectOrganization"
    scalaVersion := printed "scalaVersion"
    playVersion := printed "playVersion"
    onlyOneSuccess := ((named.lookup "onlyOneSuccess").map Value.holds).getD false }

namespace SupportPage

def buildText (values : SupportValues) : String :=
  Text.ofLines [
    "version := \"" ++ values.projectVersion ++ "\"",
    "",
    "name := \"" ++ values.projectName ++ "\"",
    "",
    "organization := \"" ++ values.projectOrganization ++ "\"",
    "",
    "scalaVersion := \"" ++ values.scalaVersion ++ "\"",
    "",
    "libraryDependencies ++= Seq(",
    "  \"com.typesafe.play\" %% \"play-ws\" % \"" ++ values.playVersion ++ "\",",
    "  \"com.typesafe.play\" %% \"play-ahc-ws\" % \"" ++ values.playVersion ++ "\",",
    "  \"com.typesafe.play\" %% \"play-json\" % \"" ++ values.playVersion ++ "\",",
    "  \"org.scalatest\" %% \"scalatest\" % \"3.0.4\" % Test",
    ")",
    "",
    "scalacOptions := Seq(",
    "  \"-unchecked\",",
    "  \"-deprecation\",",
    "  \"-feature\"",
    ")"]

def referenceText (values : SupportValues) : String :=
  Text.ofLines [
    values.configPath ++ " \x7b",
    "  api \x7b",
    "    # The base URL every request of the client is sent to",
    "    baseUrl = \"http://localhost\"",
    "  \x7d",
    "\x7d"]

def apiFileText (values : SupportValues) : String :=
  Text.ofLines [
    "package " ++ values.invokerPackage,
    "",
    "import java.io.File",
    "",
    "/**",
    " * A file sent or received by the API.",
    " */",
    "case class ApiFile(file: File, name: String, contentType: Option[String] = None)"]

def apiConfigText (values : SupportValues) : String :=
  Text.ofLines [
    "package " ++ values.invokerPackage,
    "",
    "import com.typesafe.config.Config",
    "",
    "/**",
    " * Settings read from the `" ++ values.configPath ++ ".api` section of the configuration.",
    " */",
    "case class ApiConfig(baseUrl: String)",
    "",
    "object ApiConfig \x7b",
    "  def apply(config: Config): ApiConfig = ApiConfig(",
    "    baseUrl = config.getString(" ++ Source.stringLiteral (values.configPath ++ ".api.baseUrl") ++ ")",
    "  )",
    "\x7d"]

def apiRequestText (values : SupportValues) : String :=
  Text.ofLines [
    "package " ++ values.invokerPackage,
    "",
    "import play.api.libs.json.\x7bJsValue, Json, Writes\x7d",
    "",
    "sealed trait ApiMethod",
    "object ApiMethods \x7b",
    "  case object GET extends ApiMethod",
    "  case object POST extends ApiMethod",
    "  case object PUT extends ApiMethod",
    "  case object DELETE extends ApiMethod",
    "  case object PATCH extends ApiMethod",
    "  case object HEAD extends ApiMethod",
    "  case object OPTIONS extends ApiMethod",
    "\x7d",
    "",
    "sealed trait ApiKeyLocation",
    "object ApiKeyLocations \x7b",
    "  case object HEADER extends ApiKeyLocation",
    "  case object QUERY extends ApiKeyLocation",
    "\x7d",
    "",
    "sealed trait Credentials",
    "case class BasicCredentials(user: String, password: String) extends Credentials",
    "case class ApiKeyCredentials(name: String, key: String, location: ApiKeyLocation = ApiKeyLocations.HEADER) extends Credentials",
    "",
    "case class ApiRequest[T](",
    "  method: ApiMethod,",
    "  path: String,",
    "  operationId: String,",
    "  queryParams: Map[String, Any] = Map.empty,",
    "  headerParams: Map[String, Any] = Map.empty,",
    "  pathParams: Map[String, Any] = Map.empty,",
    "  body: Option[JsValue] = None,",
    "  credentials: Seq[Credentials] = Seq.empty,",
    "  successCodes: Set[Int] = Set.empty",
    ") \x7b",
    "  def withQueryParam(name: String, value: Any): ApiRequest[T] = copy(queryParams = queryParams + (name -> value))",
    "  def withHeaderParam(name: String, value: Any): ApiRequest[T] = copy(headerParams = headerParams + (name -> value))",
    "  def withPathParam(name: String, value: Any): ApiRequest[T] = copy(pathParams = pathParams + (name -> value))",
    "  def withBody[B: Writes](value: B): ApiRequest[T] = copy(body = Some(Json.toJson(value)))",
    "  def withCredentials(values: Credentials*): ApiRequest[T] = copy(credentials = credentials ++ values)",
    "  def withSuccessResponse(code: Int): ApiRequest[T] = copy(successCodes = successCodes + code)",
    "",
    "  /**",
    "   * Without declared success codes every 2XX status is a success.",
    "   */",
    "  def isSuccess(status: Int): Boolean =",
    "    if (successCodes.isEmpty) status >= 200 && status < 300",
    "    else successCodes.contains(status)",
    "\x7d"]

-- What an error stands for, which depends on the responses that count as success.
def errorSummary (onlyOneSuccess : Bool) : String :=
  if onlyOneSuccess then " * Any response other than the lowest 2XX response of an operation."
  else " * A transport failure, an HTTP error status or a response that cannot be unmarshalled."

def apiResponseText (values : SupportValues) : String :=
  Text.ofLines [
    "package " ++ values.invokerPackage,
    "",
    "case class ApiResponse[T](code: Int, content: T, headers: Map[String, Seq[String]] = Map.empty)",
    "",
    "/**",
    errorSummary values.onlyOneSuccess,
    " */",
    "case class ApiError(code: Int, message: String, content: Option[String] = None, cause: Option[Throwable] = None)",
    "  extends RuntimeException(s\"($code) $message\", cause.orNull)"]

def apiInvokerText (values : SupportValues) : String :=
  Text.ofLines [
    "package " ++ values.invokerPackage,
    "",
    "import play.api.libs.ws.JsonBodyWritables._",
    "import play.api.libs.ws.\x7bStandaloneWSClient, StandaloneWSRequest, WSAuthScheme\x7d",
    "",
    "import scala.concurrent.\x7bExecutionContext, Future\x7d",
    "import scala.util.control.NonFatal",
    "",
    "class ApiInvoker(config: ApiConfig, wsClient: StandaloneWSClient)(implicit ec: ExecutionContext) \x7b",
    "",
    "  def execute[T](apiRequest: ApiRequest[T])(implicit reader: ResponseReader[T]): Future[ApiResponse[T]] = \x7b",
    "    val path = apiRequest.pathParams.foldLeft(apiRequest.path) \x7b case (p, (name, value)) =>",
    "      p.replace(s\"\x7b$name\x7d\", value.toString)",
    "    \x7d",
    "    val request: StandaloneWSRequest = wsClient",
    "      .url(config.baseUrl + path)",
    "      .withQueryStringParameters(apiRequest.queryParams.mapValues(_.toString).toSeq: _*)",
    "      .addHttpHeaders(apiRequest.headerParams.mapValues(_.toString).toSeq: _*)",
    "      .withMethod(apiRequest.method.toString)",
    "    val withBody: StandaloneWSRequest = apiRequest.body.fold(request)(body => request.withBody(body))",
    "    val authorized = apiRequest.credentials.foldLeft(withBody)(authorize)",
    "",
    "    authorized.execute().map \x7b response =>",
    "      if (!apiRequest.isSuccess(response.status)) \x7b",
    "        throw ApiError(response.status, response.statusText, Option(response.body))",
    "      \x7d",
    "      try \x7b",
    "        ApiResponse(response.status, reader.read(response.body), response.headers)",
    "      \x7d catch \x7b",
    "        case NonFatal(e) =>",
    "          throw ApiError(response.status, s\"Unable to read the response: $\x7be.getMessage\x7d\", Option(response.body), Some(e))",
    "      \x7d",
    "    \x7d",
    "  \x7d",
    "",
    "  private def authorize(request: StandaloneWSRequest, credentials: Credentials): StandaloneWSRequest =",
    "    credentials match \x7b",
    "      case BasicCredentials(user, password) =>",
    "        request.withAuth(user, password, WSAuthScheme.BASIC)",
    "      case ApiKeyCredentials(name, key, ApiKeyLocations.QUERY) =>",
    "        request.addQueryStringParameters(name -> key)",
    "      case ApiKeyCredentials(name, key, ApiKeyLocations.HEADER) =>",
    "        request.addHttpHeaders(name -> key)",
    "    \x7d",
    "\x7d"]

def apiImplicitsText (values : SupportValues) : String :=
  Text.ofLines [
    "package " ++ values.invokerPackage,
    "",
    "import play.api.libs.json.\x7bJson, Reads\x7d",
    "",
    "trait ResponseReader[T] \x7b",
    "  def read(body: String): T",
    "\x7d",
    "",
    "object ApiImplicits \x7b",
    "  implicit val unitReader: ResponseReader[Unit] = new ResponseReader[Unit] \x7b",
    "    def read(body: String): Unit = ()",
    "  \x7d",
    "",
    "  implicit def jsonReader[T: Reads]: ResponseReader[T] = new ResponseReader[T] \x7b",
    "    def read(body: String): T = Json.parse(body).as[T]",
    "  \x7d",
    "\x7d"]

def text (values : SupportValues) : SupportPage → String
  | .build => buildText values
  | .reference => referenceText values
  | .apiFile => apiFileText values
  | .apiConfig => apiConfigText values
  | .apiRequest => apiRequestText values
  | .apiResponse => apiResponseText values
  | .apiInvoker => apiInvokerText values
  | .apiImplicits => apiImplicitsText values

def id : SupportPage → String
  | .build => "sbt.j2"
  | .reference => "reference.j2"
  | .apiFile => "apiFile.j2"
  | .apiConfig => "apiConfig.j2"
  | .apiRequest => "apiRequest.j2"
  | .apiResponse => "apiResponse.j2"
  | .apiInvoker => "apiInvoker.j2"
  | .apiImplicits => "apiImplicits.j2"

def all : List SupportPage :=
  [.build, .reference, .apiFile, .apiConfig, .apiRequest, .apiResponse, .apiInvoker, .apiImplicits]

-- A page by its id; empty segments and `.` in the id do not count.
def ofId? (text : String) : Option SupportPage :=
  let segments := (Text.splitAt '/' text).filter fun segment => segment != "" && segment != "."
  all.find? fun page => segments == [page.id]

end SupportPage

end PlayClient
